import TemplateTrace.Number.Decimal
import TemplateTrace.Text.Blank
import TemplateTrace.Trace.Error
import TemplateTrace.Trace.Event
import TemplateTrace.Xml.Document

/-!
# Reading traces

A trace is an XML document whose root element `Trace` holds one element for every event. What
an event says stands in elements inside it, in any order and among others: as their text, which
is trimmed, or as an attribute of theirs.

The first element with a fault decides the error. Within it the parts are judged in a fixed
order, that of the bindings below.
-/

namespace TemplateTrace

open Xml (Element)

/-- The element of an event that holds one of its parts. -/
def EventTag.child (event : EventTag) (e : Element) (name : String) :
    Except TraceError Element :=
  match e.child? name with
  | some child => .ok child
  | none => .error (.missingField event name)

/-- The trimmed text of the element that holds a part. -/
def EventTag.childText (event : EventTag) (e : Element) (name : String) :
    Except TraceError String := do
  let child ← event.child e name
  match child.text? with
  | some text => .ok (Text.trimmed text)
  | none => .error (.missingField event name)

/-- An attribute of the element that holds a part. -/
def EventTag.childAttribute (event : EventTag) (e : Element) (name key : String) :
    Except TraceError String := do
  let child ← event.child e name
  match child.attribute? key with
  | some value => .ok value
  | none => .error (.missingField event key)

/-- An attribute that is a number, with blanks around it. -/
def EventTag.childNumber {α : Type} (event : EventTag) (number? : List Char → Option α)
    (e : Element) (name key : String) : Except TraceError α := do
  let value ← event.childAttribute e name key
  match number? (Text.trim value.toList) with
  | some n => .ok n
  | none => .error (.invalidNumber name value)

/-- The kind of an event. -/
def EventTag.kind (event : EventTag) (e : Element) : Except TraceError Kind := do
  let token ← event.childText e "Kind"
  (Kind.readTraced token).mapError .token

/-- When an event happened, in seconds. -/
def EventTag.time (event : EventTag) (e : Element) : Except TraceError Number.Binary64 :=
  event.childNumber Number.binary64? e "TimeStamp" "time"

/-- How much memory was in use at an event, in bytes. -/
def EventTag.memory (event : EventTag) (e : Element) : Except TraceError UInt64 := do
  let bytes ← event.childNumber Number.count? e "MemoryUsage" "bytes"
  return UInt64.ofNat bytes

namespace Event

/-- Reads an opening event. -/
def readBegin (e : Element) : Except TraceError Event := do
  let place ← EventTag.begins.childText e "PointOfInstantiation"
  let kind ← EventTag.begins.kind e
  let context ← EventTag.begins.childAttribute e "Context" "context"
  let location ← (Location.read place).mapError .token
  let time ← EventTag.begins.time e
  let memory ← EventTag.begins.memory e
  return .begins { kind, context, location, time, memory }

/-- Reads a closing event. -/
def readEnd (e : Element) : Except TraceError Event := do
  let kind ← EventTag.ends.kind e
  let time ← EventTag.ends.time e
  let memory ← EventTag.ends.memory e
  return .ends kind time memory

/-- Reads the event that an element stands for. -/
def ofElement (e : Element) : Except TraceError Event :=
  if e.name = EventTag.begins.name then readBegin e
  else if e.name = EventTag.ends.name then readEnd e
  else .error (.unknownElement e.name)

/-- Reads the events of a trace from its root element. -/
def ofTrace (root : Element) : Except TraceError (List Event) :=
  if root.name = "Trace" then root.elements.mapM ofElement else .error .missingTraceElement

/-- Reads the events of a trace from its text. -/
def readTrace (text : String) : Except TraceError (List Event) := do
  let root ← (Xml.read text).mapError .malformed
  ofTrace root

end Event

end TemplateTrace
