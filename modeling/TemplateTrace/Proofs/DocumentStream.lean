import TemplateTrace.Display.Console
import TemplateTrace.Proofs.JsonReading
import TemplateTrace.Text.Lines

/-!
# The stream of JSON documents

What a stream of documents shows is one line for each document but empty errors, type names and
code, and the line is read as that document. A reader that only has the output finds the lines, since every control
character of a text is escaped and so nothing inside of a line ends it. And it finds the document,
since the fields of each kind of document have names of their own, none of them the name of the
tag. The counts of a call graph have to be below 2^64, as those that are counted are.
-/

namespace TemplateTrace

open Json

/-! ## Records -/

namespace Json

theorem list?_map {α : Type} {item? : Json → Option α} {toJson : α → Json} {items : List α}
    (h : ∀ item ∈ items, item? (toJson item) = some item) :
    list? item? (.array (items.map toJson)) = some items := by
  rw [list?]
  induction items with
  | nil => rfl
  | cons item items ih =>
      obtain ⟨hitem, hitems⟩ := List.forall_mem_cons.1 h
      rw [List.map_cons, List.mapM_cons, hitem, ih hitems]
      rfl

theorem count?_ofNat {n : Nat} (h : n < Number.countBound) : (ofNat n).count? = some n :=
  if_pos h

theorem valuesOf_cons (key : String) (value : Json) (members : List (Option String × Json))
    (name : String) :
    valuesOf ((some key, value) :: members) name =
      (if name = key then [value] else []) ++ valuesOf members name := by
  by_cases h : key = name
  · simp [valuesOf, h]
  · simp [valuesOf, h, Ne.symm h]

theorem valuesOf_of_nodup {members : List (String × Json)} (h : (members.map Prod.fst).Nodup)
    (name : String) :
    valuesOf (members.map fun (key, value) => (some key, value)) name =
      (members.lookup name).toList := by
  induction members with
  | nil => rfl
  | cons member members ih =>
      obtain ⟨key, value⟩ := member
      obtain ⟨hkey, hmembers⟩ := List.nodup_cons.1 h
      rw [List.map_cons, valuesOf_cons, ih hmembers]
      split
      · next heq =>
          have hnone : members.lookup name = none := List.lookup_eq_none_iff.2 fun member hm =>
            bne_iff_ne.2 fun hname => hkey (List.mem_map.2 ⟨member, hm, hname.symm.trans heq⟩)
          rw [hnone, heq, List.lookup_cons_self]
          rfl
      · next hne =>
          rw [List.lookup_cons, beq_eq_false_iff_ne.2 hne]
          rfl

/-- The fields of an object whose keys differ are what its members say. -/
theorem fields?_ofMembers {members : List (String × Json)} (h : (members.map Prod.fst).Nodup)
    (names : List String) :
    fields? names (.ofMembers members) = some (names.map (List.lookup · members)) := by
  have hkeys : (members.map fun (key, value) => (some key, value)).all (·.1.isSome) = true := by
    simp
  have honce : names.all (fun name =>
      (valuesOf (members.map fun (key, value) => (some key, value)) name).length ≤ 1) = true := by
    refine List.all_eq_true.2 fun name _ => decide_eq_true ?_
    rw [valuesOf_of_nodup h]
    exact Option.length_toList_le
  rw [show ofMembers members =
    .object (members.map fun (key, value) => (some key, value)) from rfl, fields?, hkeys, honce]
  simp [valuesOf_of_nodup h]

/-! ### Plain values -/

theorem arePlain_of_forall {room : Nat} {items : List Json}
    (h : ∀ item ∈ items, item.isPlain room = true) : arePlain room items = true := by
  induction items with
  | nil => rfl
  | cons item items ih =>
      obtain ⟨hitem, hitems⟩ := List.forall_mem_cons.1 h
      rw [arePlain, hitem, ih hitems]
      rfl

theorem isPlain_array {room : Nat} {items : List Json}
    (h : ∀ item ∈ items, item.isPlain room = true) :
    (array items).isPlain (room + 1) = true := by
  rw [isPlain, Nat.add_sub_cancel, arePlain_of_forall h, decide_eq_true (Nat.succ_pos room)]
  rfl

theorem isPlain_ofMembers {room : Nat} {members : List (String × Json)}
    (h : ∀ member ∈ members, member.2.isPlain room = true) :
    (ofMembers members).isPlain (room + 1) = true := by
  have hplain : haveOnlyPlain room (members.map fun (key, value) => (some key, value)) = true := by
    induction members with
    | nil => rfl
    | cons member members ih =>
        obtain ⟨hmember, hmembers⟩ := List.forall_mem_cons.1 h
        rw [List.map_cons, haveOnlyPlain, hmember, ih hmembers]
        rfl
  rw [ofMembers, isPlain, Nat.add_sub_cancel, hplain, decide_eq_true (Nat.succ_pos room)]
  rfl

theorem isPlain_ofText (room : Nat) (text : String) : (ofText text).isPlain room = true := by
  rw [ofText, isPlain]
  rfl

theorem isPlain_ofNat (room : Nat) {n : Nat} (h : n < Number.countBound) :
    (ofNat n).isPlain room = true := by
  rw [ofNat, isPlain]
  exact Numeral.isInRange_of_lt h

end Json

/-! ## The data model -/

theorem Kind.ofJson?_toJson (emptyObject : Bool) (kind : Kind) :
    Kind.ofJson? emptyObject kind.toJson = some kind :=
  Kind.ofName?_name kind

theorem Frame.nodup_members (frame : Frame) : (frame.members.map Prod.fst).Nodup := by
  obtain ⟨name, kind⟩ := frame
  cases kind with
  | none => exact (by decide : ["name"].Nodup)
  | some kind => exact (by decide : ["name", "kind"].Nodup)

theorem Frame.fields?_members (frame : Frame) :
    fields? ["name", "kind"] (.ofMembers frame.members) =
      some [some (.ofText frame.name), frame.kind.map Kind.toJson] := by
  rw [fields?_ofMembers frame.nodup_members]
  obtain ⟨name, kind⟩ := frame
  cases kind with
  | none => rfl
  | some kind => rfl

theorem Kind.optional?_toJson (emptyObject : Bool) (kind : Option Kind) :
    optional? (Kind.ofJson? emptyObject) (kind.map Kind.toJson) = some kind := by
  cases kind with
  | none => rfl
  | some kind => exact congrArg (Option.map some) (Kind.ofJson?_toJson emptyObject kind)

theorem Frame.ofJson?_members (emptyObject : Bool) (frame : Frame) :
    Frame.ofJson? emptyObject (.ofMembers frame.members) = some frame := by
  rw [Frame.ofJson?, frame.fields?_members]
  simp only [Option.bind_eq_bind, Option.bind_some, text?, ofText, Kind.optional?_toJson]
  rfl

theorem Frame.isPlain_members (frame : Frame) (room : Nat) :
    ∀ member ∈ frame.members, member.2.isPlain room = true := by
  obtain ⟨name, kind⟩ := frame
  cases kind with
  | none => simp [Frame.members, isPlain_ofText]
  | some kind => simp [Frame.members, Kind.toJson, isPlain_ofText]

theorem Paragraph.ofJson?_toJson (paragraph : Paragraph) :
    Paragraph.ofJson? paragraph.toJson = some paragraph := by
  rw [Paragraph.ofJson?, Paragraph.toJson, fields?_ofMembers (by simp)]
  rfl

theorem FlatNode.ofJson?_toJson (emptyObject : Bool) {flat : FlatNode}
    (hdepth : flat.depth < Number.countBound) (hchildren : flat.children < Number.countBound) :
    FlatNode.ofJson? emptyObject flat.toJson = some flat := by
  have hfields : fields? ["name", "kind", "depth", "children"] flat.toJson =
      some [some (.ofText flat.name), flat.kind.map Kind.toJson, some (.ofNat flat.depth),
        some (.ofNat flat.children)] := by
    obtain ⟨name, kind, depth, children⟩ := flat
    cases kind with
    | none =>
        rw [FlatNode.toJson, fields?_ofMembers (by simp [Frame.members])]
        rfl
    | some kind =>
        rw [FlatNode.toJson, fields?_ofMembers (by simp [Frame.members])]
        rfl
  rw [FlatNode.ofJson?, hfields]
  simp only [Option.bind_eq_bind, Option.bind_some, text?, ofText, Kind.optional?_toJson,
    count?_ofNat hdepth, count?_ofNat hchildren]
  rfl

/-- The counts of a call graph are below 2^64. -/
def CallNode.CountsFit (node : CallNode) : Prop :=
  node.depth < Number.countBound ∧ node.children < Number.countBound

theorem CallNode.ofFlatJson?_toFlatJson (emptyObject : Bool) {node : CallNode}
    (h : node.CountsFit) :
    CallNode.ofFlatJson? emptyObject node.toFlatJson = some node := by
  rw [CallNode.ofFlatJson?, CallNode.toFlatJson, FlatNode.ofJson?_toJson emptyObject h.1 h.2,
    Option.map_some, CallNode.node_flat]

theorem CallNode.isPlain_toFlatJson {node : CallNode} (h : node.CountsFit) (room : Nat) :
    node.toFlatJson.isPlain (room + 1) = true := by
  refine isPlain_ofMembers fun member hmember => ?_
  rcases List.mem_append.1 hmember with hframe | hcount
  · exact node.frame.isPlain_members room member hframe
  · rw [List.mem_cons, List.mem_singleton] at hcount
    rcases hcount with rfl | rfl
    · exact isPlain_ofNat room h.1
    · exact isPlain_ofNat room h.2

namespace Document

/-- The counts in a document are below 2^64. -/
def CountsFit : Document → Prop
  | .callGraph nodes => ∀ node ∈ nodes, node.CountsFit
  | _ => True

theorem single?_ofMembers {α : Type} (name : String) (read? : Json → Option α) (json : Json) :
    single? name read? (.ofMembers [(name, json)]) = read? json := by
  rw [single?, fields?_ofMembers (by simp), List.map_singleton, List.lookup_cons_self]
  rfl

theorem ofRecord?_members {document : Document} (h : document.CountsFit) :
    ofRecord? document.tag (.ofMembers document.members) = some document := by
  cases document with
  | rawText text =>
      rw [tag, members, ofRecord?, single?_ofMembers]
      rfl
  | error text =>
      rw [tag, members, ofRecord?, single?_ofMembers]
      rfl
  | typeName name =>
      rw [tag, members, ofRecord?, single?_ofMembers]
      rfl
  | comment prose =>
      rw [tag, members, ofRecord?, single?_ofMembers, Comment.paragraphsToJson,
        list?_map fun paragraph _ => paragraph.ofJson?_toJson]
      rfl
  | code text =>
      rw [tag, members, ofRecord?, single?_ofMembers]
      rfl
  | frame shown =>
      rw [tag, members, ofRecord?, Frame.ofJson?_members]
      rfl
  | backtrace trace =>
      rw [tag, members, ofRecord?, single?_ofMembers, Backtrace.ofJson?, Backtrace.toJson,
        list?_map fun shown _ => shown.ofJson?_members true]
      rfl
  | callGraph nodes =>
      rw [tag, members, ofRecord?, single?_ofMembers,
        list?_map fun node hnode => CallNode.ofFlatJson?_toFlatJson true (h node hnode)]
      rfl

/-- No field has the name of the tag. -/
theorem fst_ne_type (document : Document) : ∀ member ∈ document.members, member.1 ≠ "type" := by
  cases document with
  | frame shown =>
      obtain ⟨name, kind⟩ := shown
      cases kind with
      | none => simp [members, Frame.members]
      | some kind => simp [members, Frame.members]
  | _ => simp [members]

/-- The tag is found, and the record without it is the one that was tagged. -/
theorem ofJson?_toJson_eq (document : Document) :
    ofJson? document.toJson = ofRecord? document.tag (.ofMembers document.members) := by
  have hkeys : ∀ member ∈ document.members.map fun (key, value) => (some key, value),
      member.1 ≠ some "type" := by
    intro member hmember
    obtain ⟨field, hfield, rfl⟩ := List.mem_map.1 hmember
    exact fun htype => document.fst_ne_type field hfield (Option.some.inj htype)
  have hvalues : valuesOf (document.members.map fun (key, value) => (some key, value)) "type" =
      [] := by
    rw [valuesOf, List.map_eq_nil_iff, List.filter_eq_nil_iff]
    exact fun member hmember => by simpa using hkeys member hmember
  have hrest : (document.members.map fun (key, value) => (some key, value)).filter
      (·.1 ≠ some "type") = document.members.map fun (key, value) => (some key, value) :=
    List.filter_eq_self.2 fun member hmember => by simpa using hkeys member hmember
  rw [toJson, ofMembers, List.map_cons, ofJson?, valuesOf_cons, hvalues, List.filter_cons, hrest]
  simp [ofText, ofMembers]

theorem isPlain_members {document : Document} (h : document.CountsFit) (room : Nat) :
    ∀ member ∈ document.members, member.2.isPlain (room + 2) = true := by
  cases document with
  | rawText text => simp [members, isPlain_ofText]
  | error text => simp [members, isPlain_ofText]
  | typeName name => simp [members, isPlain_ofText]
  | comment prose =>
      rw [members, List.forall_mem_singleton]
      refine isPlain_array fun item hitem => ?_
      obtain ⟨paragraph, -, rfl⟩ := List.mem_map.1 hitem
      exact isPlain_ofMembers (by simp [isPlain_ofText])
  | code text => simp [members, isPlain_ofText]
  | frame shown => exact shown.isPlain_members _
  | backtrace trace =>
      rw [members, List.forall_mem_singleton]
      refine isPlain_array fun item hitem => ?_
      obtain ⟨shown, -, rfl⟩ := List.mem_map.1 hitem
      exact isPlain_ofMembers (shown.isPlain_members _)
  | callGraph nodes =>
      rw [members, List.forall_mem_singleton]
      refine isPlain_array fun item hitem => ?_
      obtain ⟨node, hnode, rfl⟩ := List.mem_map.1 hitem
      exact CallNode.isPlain_toFlatJson (h node hnode) _

/-- A document is read from its text. -/
theorem read?_render {document : Document} (h : document.CountsFit) :
    read? document.render = some document := by
  have hplain : document.toJson.isPlain maxNesting = true :=
    isPlain_ofMembers (List.forall_mem_cons.2 ⟨isPlain_ofText _ _, isPlain_members h _⟩)
  rw [read?, render, Json.read?_render, Option.bind_eq_bind, Option.bind_some, if_pos hplain,
    ofJson?_toJson_eq, ofRecord?_members h]

theorem oneLine_render (document : Document) : OneLine document.render.toList := by
  rw [render, Json.render, String.toList_ofList]
  exact oneLine_write document.toJson

end Document

/-! ## The stream -/

theorem Text.lines_join {lines : List String} (h : ∀ line ∈ lines, OneLine line.toList) :
    Text.lines (String.join (lines.map (· ++ "\n"))).toList = lines.map String.toList := by
  have hsplit : (String.join (lines.map (· ++ "\n"))).toList.splitOn '\n' =
      lines.map String.toList ++ [[]] := by
    induction lines with
    | nil => rfl
    | cons line lines ih =>
        obtain ⟨hline, hlines⟩ := List.forall_mem_cons.1 h
        have hfeed : '\n' ∉ line.toList := fun hmem => absurd (hline '\n' hmem) (by decide)
        rw [List.map_cons, String.join_cons, String.toList_append, String.toList_append,
          List.append_assoc, show "\n".toList = ['\n'] from rfl, List.singleton_append,
          List.splitOn_append_cons_self_of_not_mem hfeed, ih hlines]
        rfl
  have hreturn : ∀ line ∈ lines.map String.toList, dropReturn line = line := by
    intro line hline
    obtain ⟨line, hmem, rfl⟩ := List.mem_map.1 hline
    refine if_neg fun hlast => ?_
    exact absurd (h line hmem '\r' (List.mem_of_getLast? hlast)) (by decide)
  rw [Text.lines, hsplit, List.getLast?_concat, List.dropLast_concat,
    List.map_congr_left hreturn, List.map_id']

theorem Document.isVoid_iff {document : Document} :
    document.isVoid = true ↔ document ∈ [.error "", .typeName "", .code ""] := by
  cases document <;> simp [isVoid]

namespace Sink

theorem output_line (text : String) : Write.output [.text text, .newLine] = text ++ "\n" := by
  rw [Write.output, List.map_cons, List.map_singleton, String.join_cons, String.join_cons,
    String.join_nil, String.append_empty, Write.content, Write.content]

/-- Each document that is not void is a line. -/
theorem output_json (documents : List Document) :
    Sink.json.output documents =
      String.join (((documents.filter (!·.isVoid)).map Document.render).map (· ++ "\n")) := by
  induction documents with
  | nil => rfl
  | cons document documents ih =>
      have hcons : Sink.json.output (document :: documents) =
          Write.output document.jsonWrites ++ Sink.json.output documents := by
        rw [Sink.output, List.flatMap_cons, Write.output, List.map_append, String.join_append]
        rfl
      rw [hcons, ih, Document.jsonWrites]
      cases hvoid : document.isVoid with
      | true =>
          rw [if_pos rfl, List.filter_cons_of_neg (by simp [hvoid])]
          exact String.empty_append
      | false =>
          rw [if_neg Bool.false_ne_true, output_line, List.filter_cons_of_pos (by simp [hvoid]),
            List.map_cons, List.map_cons, String.join_cons]

/-- What a stream shows falls into lines, and each is read as the next document, where empty errors,
type names and code have no line. The line of a call graph holds its nodes with their frames taken apart, and they are read as the
nodes that were shown. -/
theorem json_output_decodes (documents : List Document)
    (h : ∀ document ∈ documents, document.CountsFit) :
    let output := Sink.json.output documents
    let lines := (Text.lines output.toList).map String.ofList
    output = String.join (lines.map (· ++ "\n")) ∧
      (∀ line ∈ lines, ∀ c ∈ line.toList, 0x20 ≤ c.toNat) ∧
      lines.map Document.read? =
        (documents.filter (· ∉ [.error "", .typeName "", .code ""])).map some := by
  intro output lines
  have hvoid : documents.filter (· ∉ [.error "", .typeName "", .code ""]) =
      documents.filter (!·.isVoid) := by
    refine List.filter_congr fun document _ => ?_
    rw [Bool.eq_iff_iff, decide_eq_true_iff, Bool.not_eq_true', ← Document.isVoid_iff,
      Bool.not_eq_true]
  have hone : ∀ line ∈ (documents.filter (!·.isVoid)).map Document.render,
      OneLine line.toList := by
    intro line hline
    obtain ⟨document, -, rfl⟩ := List.mem_map.1 hline
    exact document.oneLine_render
  have hlines : lines = (documents.filter (!·.isVoid)).map Document.render := by
    rw [show lines = (Text.lines (Sink.json.output documents).toList).map String.ofList from rfl,
      output_json, Text.lines_join hone, List.map_map]
    exact (List.map_congr_left fun line _ => String.ofList_toList).trans (List.map_id _)
  rw [hlines, hvoid]
  refine ⟨output_json documents, hone, ?_⟩
  rw [List.map_map]
  refine List.map_congr_left fun document hdocument => ?_
  exact Document.read?_render (h document (List.mem_filter.1 hdocument).1)

/-- A stream of all kinds of documents, with texts that have to be escaped and three documents that
show nothing. -/
theorem json_output_decodes_escaped :
    let f : Frame := { name := "f<\u2028>" }
    let int : Frame := { name := "int", kind := some .memoization }
    let shown : List Document := [.rawText "a\"b\\\n\x01\x1b[0m", .error "", .error "\x07",
      .typeName "", .typeName "g<'\\t'>", .code "", .code "\r\n",
      .comment { paragraphs := [{ firstIndent := "-", restIndent := "\t", content := "\"" }] },
      .frame int, .backtrace { frames := [f, int] }, .callGraph [⟨f, 0, 1⟩, ⟨int, 1, 0⟩]]
    (∀ document ∈ shown, document.CountsFit) ∧
      ((Text.lines (Sink.json.output shown).toList).map String.ofList).map Document.read? =
        [0, 2, 4, 6, 7, 8, 9, 10].map fun i : Nat => shown[i]? := by
  intro f int shown
  have hfit : ∀ document ∈ shown, document.CountsFit := by
    simp [shown, Document.CountsFit, CallNode.CountsFit, Number.countBound]
  exact ⟨hfit, (json_output_decodes shown hfit).2.2⟩

end Sink

end TemplateTrace
