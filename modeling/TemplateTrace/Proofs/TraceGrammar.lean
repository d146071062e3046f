import TemplateTrace.Proofs.FirstFault
import TemplateTrace.Proofs.LocationReading
import TemplateTrace.Proofs.TextTrimming
import TemplateTrace.Trace.Reader

/-!
# The grammar of traces

What an element of a trace says is read off its content here, without a reader: `Describes` relates
an element to the event that it stands for. Whatever else an element holds, and in whatever order,
is of no account, and of several elements of one name the first one counts.

An element can have many faults at once, so what is looked for in it is listed, each fault with
the error that it is reported as, `elementChecks`. Those of a trace are the lists of its elements,
one after the other, and the first fault found is the error, `readTrace_accepts_grammar`.
-/

namespace TemplateTrace

open Xml (Element)

/-! ## What an element says -/

namespace Xml.Element

variable {e : Element} {name key : String}

/-- The first element inside with the given name. -/
def Holds (e : Element) (name : String) (child : Element) : Prop :=
  FirstIn (·.name = name) e.elements child

/-- The element that holds a part begins with a text: the token and blanks around it. -/
def Says (e : Element) (name token : String) : Prop :=
  ∃ child, e.Holds name child ∧ ∃ content rest, child.children = .text content :: rest ∧
    Text.Trims content.toList token.toList

/-- The element that holds a part has an attribute that belongs to no namespace. -/
def Gives (e : Element) (name key value : String) : Prop :=
  ∃ child, e.Holds name child ∧
    ∃ a, FirstIn (fun a => a.space = none ∧ a.name = key) child.attributes a ∧ a.value = value

/-- The attribute is a number and blanks around it. -/
def GivesNumber {α : Type} (number? : List Char → Option α) (e : Element) (name key : String)
    (n : α) : Prop :=
  ∃ value, e.Gives name key value ∧
    ∃ digits, Text.Trims value.toList digits ∧ number? digits = some n

theorem child?_eq_some_iff {child : Element} : e.child? name = some child ↔ e.Holds name child := by
  rw [child?, find?_eq_some_iff_firstIn, Holds]
  simp only [decide_eq_true_eq]

theorem text?_eq_some_iff {content : String} :
    e.text? = some content ↔ ∃ rest, e.children = .text content :: rest := by
  rw [text?]
  split
  · next h => simp [h]
  · next h => simpa using fun rest hrest => h content rest hrest

theorem attribute?_eq_some_iff {value : String} :
    e.attribute? key = some value ↔
      ∃ a, FirstIn (fun a => a.space = none ∧ a.name = key) e.attributes a ∧ a.value = value := by
  simp only [attribute?, Option.map_eq_some_iff, find?_eq_some_iff_firstIn, Bool.and_eq_true,
    Option.isNone_iff_eq_none, decide_eq_true_eq]

theorem child?_eq_none_iff : e.child? name = none ↔ ∀ child ∈ e.elements, child.name ≠ name := by
  simp [child?]

theorem text?_eq_none_iff :
    e.text? = none ↔ ∀ content rest, e.children ≠ .text content :: rest := by
  simp [Option.eq_none_iff_forall_ne_some, text?_eq_some_iff]

theorem attribute?_eq_none_iff :
    e.attribute? key = none ↔ ∀ a ∈ e.attributes, a.space = none → a.name ≠ key := by
  simp [attribute?]

end Xml.Element

/-- An element stands for an event. -/
inductive Describes : Element → Event → Prop where
  | begins {e : Element} {i : Instantiation} (name : e.name = "TemplateBegin")
      (traced : i.kind ≠ .nonTemplateType) (kind : e.Says "Kind" i.kind.name)
      (context : e.Gives "Context" "context" i.context)
      (place : ∃ text, e.Says "PointOfInstantiation" text ∧ Location.Spells text i.location)
      (time : e.GivesNumber Number.binary64? "TimeStamp" "time" i.time)
      (memory : e.GivesNumber Number.count? "MemoryUsage" "bytes" i.memory.toNat) :
      Describes e (.begins i)
  | ends {e : Element} {k : Kind} {t : Number.Binary64} {m : UInt64}
      (name : e.name = "TemplateEnd") (traced : k ≠ .nonTemplateType) (kind : e.Says "Kind" k.name)
      (time : e.GivesNumber Number.binary64? "TimeStamp" "time" t)
      (memory : e.GivesNumber Number.count? "MemoryUsage" "bytes" m.toNat) :
      Describes e (.ends k t m)

/-! ## What is looked for in an element -/

section Checks

variable (event : EventTag) (e : Element) (name key : String) {α : Type}
  (number? : List Char → Option α)

/-- No element holds the part. -/
def NoElement (err : TraceError) : Prop :=
  (∀ child ∈ e.elements, child.name ≠ name) ∧ err = .missingField event name

/-- The element that holds the part does not begin with a text. -/
def NoText (err : TraceError) : Prop :=
  ∃ child, e.Holds name child ∧ (∀ content rest, child.children ≠ .text content :: rest) ∧
    err = .missingField event name

/-- The element that holds the part has no such attribute. -/
def NoAttribute (err : TraceError) : Prop :=
  ∃ child, e.Holds name child ∧ (∀ a ∈ child.attributes, a.space = none → a.name ≠ key) ∧
    err = .missingField event key

/-- The attribute is no number, blanks around it aside. -/
def NoNumber (err : TraceError) : Prop :=
  ∃ value, e.Gives name key value ∧
    (∃ digits, Text.Trims value.toList digits ∧ number? digits = none) ∧
    err = .invalidNumber name value

/-- The token is the name of no kind that a trace can hold. -/
def NoKind (err : TraceError) : Prop :=
  ∃ token, e.Says "Kind" token ∧ (∀ kind : Kind, kind ≠ .nonTemplateType → kind.name ≠ token) ∧
    err = .token (.unknownKind token)

/-- The point of instantiation is not written as a location. -/
def NoLocation (err : TraceError) : Prop :=
  ∃ text, e.Says "PointOfInstantiation" text ∧ (∀ location, ¬ Location.Spells text location) ∧
    err = .token (.invalidLocation text)

def textChecks : List (TraceError → Prop) := [NoElement event e name, NoText event e name]

def attributeChecks : List (TraceError → Prop) :=
  [NoElement event e name, NoAttribute event e name key]

def numberChecks : List (TraceError → Prop) :=
  attributeChecks event e name key ++ [NoNumber e name key number?]

def kindChecks : List (TraceError → Prop) := textChecks event e "Kind" ++ [NoKind e]

def timeChecks : List (TraceError → Prop) :=
  numberChecks event e "TimeStamp" "time" Number.binary64?

def memoryChecks : List (TraceError → Prop) :=
  numberChecks event e "MemoryUsage" "bytes" Number.count?

def beginChecks : List (TraceError → Prop) :=
  List.flatten [textChecks .begins e "PointOfInstantiation", kindChecks .begins e,
    attributeChecks .begins e "Context" "context", [NoLocation e], timeChecks .begins e,
    memoryChecks .begins e]

def endChecks : List (TraceError → Prop) :=
  List.flatten [kindChecks .ends e, timeChecks .ends e, memoryChecks .ends e]

/-- What is looked for in an element of a trace, in this order. -/
def elementChecks : List (TraceError → Prop) :=
  if e.name = "TemplateBegin" then beginChecks e
  else if e.name = "TemplateEnd" then endChecks e
  else [(· = .unknownElement e.name)]

end Checks

/-! ## What is read is what is said -/

theorem Number.lt_of_count? {s : List Char} {n : Nat} (h : Number.count? s = some n) :
    n < Number.countBound := of_decide_eq_true (Option.filter_eq_some_iff.1 h).2

namespace Kind

theorem ofName?_eq_some_iff {token : String} {kind : Kind} :
    ofName? token = some kind ↔ kind.name = token :=
  ⟨fun h => by simpa using List.find?_some h, fun h => h ▸ ofName?_name kind⟩

theorem readTraced_eq (token : String) :
    readTraced token = match (ofName? token).filter (· ≠ .nonTemplateType) with
      | some kind => .ok kind
      | none => .error (.unknownKind token) := by
  rw [readTraced]
  cases ofName? token with
  | none => rfl
  | some kind => cases kind <;> rfl

theorem decides_readTraced (token : String) :
    Decides (readTraced token) (fun kind => kind ≠ .nonTemplateType ∧ kind.name = token)
      [fun cause => (∀ kind : Kind, kind ≠ .nonTemplateType → kind.name ≠ token) ∧
        cause = .unknownKind token] := by
  refine .ofOption (o := (ofName? token).filter (· ≠ .nonTemplateType)) (f := id)
    (fun kind h => by rw [readTraced_eq, h]; rfl) (fun h => by rw [readTraced_eq, h])
    (fun kind => ?_) fun cause => ?_
  · simp [Option.filter_eq_some_iff, ofName?_eq_some_iff, and_comm]
  · simp [Option.filter_eq_none_iff, ofName?_eq_some_iff, not_imp_not]

end Kind

namespace EventTag

variable (event : EventTag) (e : Element) (name key : String)

theorem decides_child :
    Decides (event.child e name) (e.Holds name) [NoElement event e name] :=
  .ofOption (o := e.child? name) (f := id) (fun _ h => by rw [child, h]; rfl)
    (fun h => by rw [child, h]) (fun _ => by simp [Element.child?_eq_some_iff]) fun _ => by
      rw [NoElement, Element.child?_eq_none_iff]

theorem decides_childText :
    Decides (event.childText e name) (e.Says name) (textChecks event e name) := by
  refine (event.decides_child e name).bind fun child hchild => ?_
  refine .ofOption (o := child.text?) (f := Text.trimmed) (fun _ h => by rw [h])
    (fun h => by rw [h]) (fun token => ?_) fun err => ?_
  · simp only [Element.text?_eq_some_iff, Text.trimmed_eq_iff, exists_and_right]
  · -- a check knows nothing of what was read before it, so it names the element once more
    rw [NoText, (event.decides_child e name).exists_iff hchild, Element.text?_eq_none_iff]

theorem decides_childAttribute :
    Decides (event.childAttribute e name key) (e.Gives name key)
      (attributeChecks event e name key) := by
  refine (event.decides_child e name).bind fun child hchild => ?_
  refine .ofOption (o := child.attribute? key) (f := id) (fun _ h => by rw [h]; rfl)
    (fun h => by rw [h]) (fun value => ?_) fun err => ?_
  · simp [Element.attribute?_eq_some_iff]
  · rw [NoAttribute, (event.decides_child e name).exists_iff hchild,
      Element.attribute?_eq_none_iff]

theorem decides_childNumber {α : Type} (number? : List Char → Option α) :
    Decides (event.childNumber number? e name key) (e.GivesNumber number? name key)
      (numberChecks event e name key number?) := by
  refine (event.decides_childAttribute e name key).bind fun value hvalue => ?_
  refine .ofOption (o := number? (Text.trim value.toList)) (f := id) (fun _ h => by rw [h]; rfl)
    (fun h => by rw [h]) (fun n => ?_) fun err => ?_
  · simp [Text.trims_iff]
  · rw [NoNumber, (event.decides_childAttribute e name key).exists_iff hvalue]
    simp [Text.trims_iff]

theorem decides_kind :
    Decides (event.kind e) (fun kind => kind ≠ .nonTemplateType ∧ e.Says "Kind" kind.name)
      (kindChecks event e) := by
  refine ((event.decides_childText e "Kind").bind fun token htoken =>
    (Kind.decides_readTraced token).mapError fun err => ?_).congr fun kind => ?_
  · rw [NoKind, (event.decides_childText e "Kind").exists_iff htoken]
    simp [eq_comm]
  · simp [and_comm]

theorem decides_time :
    Decides (event.time e) (e.GivesNumber Number.binary64? "TimeStamp" "time")
      (timeChecks event e) :=
  event.decides_childNumber e "TimeStamp" "time" Number.binary64?

theorem decides_memory :
    Decides (event.memory e)
      (fun memory => e.GivesNumber Number.count? "MemoryUsage" "bytes" memory.toNat)
      (memoryChecks event e) := by
  refine ((event.decides_childNumber e "MemoryUsage" "bytes" Number.count?).map UInt64.ofNat).congr
    fun memory => ⟨fun h => ⟨_, h, UInt64.ofNat_toNat⟩, ?_⟩
  -- a count has 64 bits, so it is what the word made of it stands for
  rintro ⟨n, ⟨value, hvalue, digits, htrim, hn⟩, rfl⟩
  refine ⟨value, hvalue, digits, htrim, ?_⟩
  rw [hn, UInt64.toNat_ofNat_of_lt' (Number.lt_of_count? hn)]

end EventTag

theorem decides_location {e : Element} {text : String}
    (h : e.Says "PointOfInstantiation" text) :
    Decides ((Location.read text).mapError TraceError.token) (Location.Spells text)
      [NoLocation e] :=
  (Location.decides_read text).mapError fun err => by
    rw [NoLocation, (EventTag.begins.decides_childText e "PointOfInstantiation").exists_iff h]
    simp [eq_comm]

namespace Event

theorem decides_readBegin {e : Element} (hname : e.name = "TemplateBegin") :
    Decides (readBegin e) (Describes e) (beginChecks e) := by
  refine ((EventTag.begins.decides_childText e "PointOfInstantiation").bind fun text htext =>
    (EventTag.begins.decides_kind e).bind fun kind _ =>
    (EventTag.begins.decides_childAttribute e "Context" "context").bind fun context _ =>
    (decides_location htext).bind fun location _ =>
    (EventTag.begins.decides_time e).bind fun time _ =>
    (EventTag.begins.decides_memory e).bind fun memory _ =>
    .ok _).congr fun event => ?_
  constructor
  · intro h
    cases h with
    | begins _ traced kind context place time memory =>
        obtain ⟨text, htext, hspells⟩ := place
        exact ⟨text, htext, _, ⟨traced, kind⟩, _, context, _, hspells, _, time, _, memory, rfl⟩
    | ends h => exact absurd (hname.symm.trans h) (by decide)
  · rintro ⟨text, htext, kind, ⟨htraced, hkind⟩, context, hcontext, location, hspells, time, htime,
      memory, hmemory, rfl⟩
    exact .begins hname htraced hkind hcontext ⟨text, htext, hspells⟩ htime hmemory

theorem decides_readEnd {e : Element} (hname : e.name = "TemplateEnd") :
    Decides (readEnd e) (Describes e) (endChecks e) := by
  refine ((EventTag.ends.decides_kind e).bind fun kind _ =>
    (EventTag.ends.decides_time e).bind fun time _ =>
    (EventTag.ends.decides_memory e).bind fun memory _ =>
    .ok _).congr fun event => ?_
  constructor
  · intro h
    cases h with
    | begins h => exact absurd (hname.symm.trans h) (by decide)
    | ends _ traced kind time memory => exact ⟨_, ⟨traced, kind⟩, _, time, _, memory, rfl⟩
  · rintro ⟨kind, ⟨htraced, hkind⟩, time, htime, memory, hmemory, rfl⟩
    exact .ends hname htraced hkind htime hmemory

theorem decides_ofElement (e : Element) :
    Decides (ofElement e) (Describes e) (elementChecks e) := by
  have hbegins : EventTag.begins.name = "TemplateBegin" := rfl
  have hends : EventTag.ends.name = "TemplateEnd" := rfl
  rw [ofElement, hbegins, hends, elementChecks]
  by_cases hbegin : e.name = "TemplateBegin"
  · rw [if_pos hbegin, if_pos hbegin]
    exact decides_readBegin hbegin
  by_cases hend : e.name = "TemplateEnd"
  · rw [if_neg hbegin, if_neg hbegin, if_pos hend, if_pos hend]
    exact decides_readEnd hend
  rw [if_neg hbegin, if_neg hbegin, if_neg hend, if_neg hend]
  refine .error fun event h => ?_
  cases h with
  | begins h => exact hbegin h
  | ends h => exact hend h

/-- The events that the elements of a trace stand for, or the first fault in them. -/
theorem decides_ofTrace {root : Element} (hname : root.name = "Trace") :
    Decides (ofTrace root) (List.Forall₂ Describes root.elements)
      (root.elements.flatMap elementChecks) := by
  rw [ofTrace, if_pos hname]
  exact .mapM decides_ofElement root.elements

/-- A text is read as the events of a trace exactly if it is the document of one, each element of
which stands for one of them. Otherwise the error is the first that is found, in the document, in
its root element and then in one element after the other. -/
theorem readTrace_accepts_grammar (text : String) :
    (∀ events, readTrace text = .ok events ↔
      ∃ root, Xml.read text = .ok root ∧ root.name = "Trace" ∧
        List.Forall₂ Describes root.elements events) ∧
    ∀ err, readTrace text = .error err ↔
      (∃ cause, Xml.read text = .error cause ∧ err = .malformed cause) ∨
      ∃ root, Xml.read text = .ok root ∧
        (root.name ≠ "Trace" ∧ err = .missingTraceElement ∨
          root.name = "Trace" ∧ FirstFault (root.elements.flatMap elementChecks) err) := by
  rw [readTrace]
  cases hread : Xml.read text with
  | error cause =>
      have hvalue : (Except.mapError TraceError.malformed (.error cause) >>= ofTrace) =
          .error (.malformed cause) := rfl
      rw [hvalue]
      simp [eq_comm]
  | ok root =>
      have hvalue : (Except.mapError TraceError.malformed (.ok root) >>= ofTrace) = ofTrace root :=
        rfl
      rw [hvalue]
      by_cases hname : root.name = "Trace"
      · simp [hname, (decides_ofTrace hname).ok_iff, (decides_ofTrace hname).error_iff]
      · simp [ofTrace, hname, eq_comm (a := TraceError.missingTraceElement)]

/-- A comment before the text of a part hides it. -/
example :
    ofElement (.mk none "TemplateEnd" []
      [.element (.mk none "Kind" [] [.interruption, .text "Memoization"])]) =
        .error (.missingField .ends "Kind") := rfl

end Event

end TemplateTrace
