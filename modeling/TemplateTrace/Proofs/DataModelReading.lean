import TemplateTrace.Proofs.DocumentStream

/-!
# The data model read back

Every value of the data model is read back from the text of its JSON form. The text gives the form
back whatever it is (`Json.read?_render`), so what is left to show is that each reader takes from
the form the fields that were put into it: `fields?_ofMembers` finds them by their names, a kind
that was left out is none, and a number is read with its sign. Two of the types hold counts, which
have to be below 2^64.
-/

namespace TemplateTrace

open Json

namespace Json

variable {α : Type} {toJson : α → Json} {ofJson? : Json → Option α} {value : α}

/-- A value is read back from the text of its JSON form. -/
def Survives (toJson : α → Json) (ofJson? : Json → Option α) (value : α) : Prop :=
  (read? (toJson value).render).bind ofJson? = some value

/-- The text can be left out. -/
theorem survives_of_form (h : ofJson? (toJson value) = some value) :
    Survives toJson ofJson? value := by
  rw [Survives, read?_render, Option.bind_some, h]

theorem int32?_ofInt (n : Int32) : (ofInt n.toInt).int32? = some n := by
  have hlow := n.le_toInt
  have hhigh := n.toInt_lt
  have hbound : Number.int32Bound = 2 ^ 31 := rfl
  by_cases hneg : n.toInt < 0
  · have hfits : 0 < n.toInt.natAbs ∧ n.toInt.natAbs ≤ Number.int32Bound := by omega
    rw [ofInt, decide_eq_true hneg, int32?, if_pos hfits,
      show -(n.toInt.natAbs : Int) = n.toInt by omega, Int32.ofInt_toInt]
  · have hfits : n.toInt.natAbs < Number.int32Bound := by omega
    rw [ofInt, decide_eq_false hneg, int32?, if_pos hfits,
      show (n.toInt.natAbs : Int) = n.toInt by omega, Int32.ofInt_toInt]

end Json

theorem Backtrace.ofJson?_toJson (emptyObject : Bool) (trace : Backtrace) :
    Backtrace.ofJson? emptyObject trace.toJson = some trace := by
  rw [Backtrace.ofJson?, Backtrace.toJson,
    list?_map fun shown _ => shown.ofJson?_members emptyObject, Option.map_some]

theorem Location.ofJson?_toJson (location : Location) :
    Location.ofJson? location.toJson = some location := by
  have hfields : fields? ["file", "line", "column"] location.toJson =
      some [some (.ofText location.file), some (.ofInt location.line.toInt),
        some (.ofInt location.column.toInt)] := by
    rw [Location.toJson, fields?_ofMembers (by simp)]
    rfl
  rw [Location.ofJson?, hfields]
  simp only [Option.bind_eq_bind, Option.bind_some, text?, ofText, int32?_ofInt]
  rfl

theorem Comment.ofJson?_toJson (comment : Comment) :
    Comment.ofJson? comment.toJson = some comment := by
  have hfields : fields? ["paragraphs"] comment.toJson = some [some comment.paragraphsToJson] := by
    rw [Comment.toJson, fields?_ofMembers (by simp)]
    rfl
  have hparagraphs : list? Paragraph.ofJson? comment.paragraphsToJson = some comment.paragraphs :=
    list?_map fun paragraph _ => paragraph.ofJson?_toJson
  rw [Comment.ofJson?, hfields]
  simp only [Option.bind_eq_bind, Option.bind_some, hparagraphs]
  rfl

theorem CallNode.ofJson?_toJson {node : CallNode} (h : node.CountsFit) :
    CallNode.ofJson? node.toJson = some node := by
  have hfields : fields? ["frame", "depth", "number_of_children"] node.toJson =
      some [some (.ofMembers node.frame.members), some (.ofNat node.depth),
        some (.ofNat node.children)] := by
    rw [CallNode.toJson, fields?_ofMembers (by simp)]
    rfl
  rw [CallNode.ofJson?, hfields]
  simp only [Option.bind_eq_bind, Option.bind_some, Frame.ofJson?_members, count?_ofNat h.1,
    count?_ofNat h.2]
  rfl

/-- Type names, frames, backtraces, locations, paragraphs, comments and the two forms of the nodes
of a call graph are all read back from their texts. -/
theorem dataModel_survives :
    (∀ name : String, Survives ofText text? name) ∧
    (∀ frame : Frame, Survives Frame.toJson (Frame.ofJson? false) frame) ∧
    (∀ trace : Backtrace, Survives Backtrace.toJson (Backtrace.ofJson? false) trace) ∧
    (∀ location : Location, Survives Location.toJson Location.ofJson? location) ∧
    (∀ paragraph : Paragraph, Survives Paragraph.toJson Paragraph.ofJson? paragraph) ∧
    (∀ comment : Comment, Survives Comment.toJson Comment.ofJson? comment) ∧
    (∀ node : CallNode, node.CountsFit → Survives CallNode.toJson CallNode.ofJson? node) ∧
    ∀ flat : FlatNode, flat.depth < Number.countBound → flat.children < Number.countBound →
      Survives FlatNode.toJson (FlatNode.ofJson? false) flat := by
  refine ⟨fun name => ?_, fun frame => ?_, fun trace => ?_, fun location => ?_,
    fun paragraph => ?_, fun comment => ?_, fun node h => ?_, fun flat hdepth hchildren => ?_⟩
  · exact survives_of_form rfl
  · exact survives_of_form (frame.ofJson?_members false)
  · exact survives_of_form (trace.ofJson?_toJson false)
  · exact survives_of_form location.ofJson?_toJson
  · exact survives_of_form paragraph.ofJson?_toJson
  · exact survives_of_form comment.ofJson?_toJson
  · exact survives_of_form (CallNode.ofJson?_toJson h)
  · exact survives_of_form (FlatNode.ofJson?_toJson false hdepth hchildren)

/-- Nodes with the greatest counts, and a name that has to be escaped. -/
theorem dataModel_survives_greatest :
    let frame : Frame := { name := "f<\"\\\x01\u2028\">", kind := some .memoization }
    let most := 18446744073709551615
    (CallNode.mk frame most most).CountsFit ∧
      Survives CallNode.toJson CallNode.ofJson? ⟨frame, most, most⟩ ∧
      Survives FlatNode.toJson (FlatNode.ofJson? false) ⟨frame.name, none, most, most⟩ := by
  intro frame most
  have hfit : (CallNode.mk frame most most).CountsFit := ⟨by decide, by decide⟩
  obtain ⟨-, -, -, -, -, -, hnode, hflat⟩ := dataModel_survives
  exact ⟨hfit, hnode _ hfit, hflat _ hfit.1 hfit.2⟩

example : (Location.toJson { file := "a\tb", line := -2147483648, column := 0 }).render =
    "\x7b\"file\":\"a\\tb\",\"line\":-2147483648,\"column\":0\x7d" := by decide +kernel

end TemplateTrace
