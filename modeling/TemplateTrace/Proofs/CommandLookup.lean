import TemplateTrace.Debugger.CommandMap
import TemplateTrace.Proofs.TextTrimming

/-!
# What a line means

The lookup of a command looks at two keys only: the first one that is not below the word, and the
one after it. What it finds is said here without any order of the keys. `Means` has one rule for
each kind of answer: a line without a word, a word that is a key, and a word that is the beginning
of no key, of one, or of several. A key belongs to the first command that lists it. The lookup
gives an answer exactly if a rule does, `resolve_eq_iff_means`.

Two looks are enough because the keys that start with a word stand together, and where the lookup
begins: such a key is not below the word, and what lies between the word and such a key starts
with the word as well (`prefix_of_not_lt`). So the keys that the lookup passes by and those after
the run are of no interest, `takeWhile_dropWhile_keys`.
-/

namespace TemplateTrace

/-! ## The first word of a line -/

namespace Text

/-- A line begins, after blanks, with a word, and goes on with a rest. -/
structure Begins (line word rest : List Char) : Prop where
  blanks : ∃ before, line = before ++ (word ++ rest) ∧ ∀ c ∈ before, isBlank c = true
  nonempty : word ≠ []
  solid : ∀ c ∈ word, isBlank c = false
  /-- The word ends where a blank stands, or with the line. -/
  maximal : rest.head?.all isBlank = true

variable {line word rest : List Char}

theorem splitWord_append (hsolid : ∀ c ∈ word, isBlank c = false)
    (hmax : rest.head?.all isBlank = true) : splitWord (word ++ rest) = (word, rest) := by
  have hword : ∀ c ∈ word, (!isBlank c) = true := fun c hc => by rw [hsolid c hc]; rfl
  rw [splitWord, List.takeWhile_append_of_pos hword, List.dropWhile_append_of_pos hword]
  cases rest with
  | nil => rw [List.takeWhile_nil, List.dropWhile_nil, List.append_nil]
  | cons c rest =>
      have hc : isBlank c = true := hmax
      simp [hc]

theorem Begins.splitWord_trimStart (h : Begins line word rest) :
    splitWord (trimStart line) = (word, rest) := by
  obtain ⟨before, rfl, hbefore⟩ := h.blanks
  have hhead : (word ++ rest).head?.any isBlank = false := by
    cases word with
    | nil => exact absurd rfl h.nonempty
    | cons c word => exact h.solid c List.mem_cons_self
  rw [trimStart_append hbefore, trimStart_of_head hhead, splitWord_append h.solid h.maximal]

/-- A line that is not blank begins with a word. -/
theorem exists_begins (h : ¬ ∀ c ∈ line, isBlank c = true) :
    ∃ word rest, Begins line word rest := by
  have hsplit : line = line.takeWhile isBlank ++ trimStart line :=
    List.takeWhile_append_dropWhile.symm
  have hfirst := head?_trimStart line
  cases hs : trimStart line with
  | nil => exact absurd (trimStart_eq_nil_iff.1 hs) h
  | cons c s =>
      rw [hs] at hfirst hsplit
      have hc : isBlank c = false := hfirst
      refine ⟨(c :: s).takeWhile (!isBlank ·), (c :: s).dropWhile (!isBlank ·),
        ⟨line.takeWhile isBlank, ?_, fun d => List.mem_takeWhile_imp⟩, ?_, fun d hd => ?_, ?_⟩
      · rw [List.takeWhile_append_dropWhile, ← hsplit]
      · simp [hc]
      · simpa using List.mem_takeWhile_imp hd
      · have hend := List.head?_dropWhile_not (!isBlank ·) (c :: s)
        cases hrest : (c :: s).dropWhile (!isBlank ·) with
        | nil => rfl
        | cons d rest =>
            rw [hrest] at hend
            simpa using hend

end Text

namespace CommandMap

variable {α : Type} {entries : List (List String × α)} {keys : List (String × α)}
  {line word rest : List Char} {key : String} {command : α}

/-- The command that a key belongs to: the first that lists it. -/
def owner? (entries : List (List String × α)) (key : String) : Option α :=
  (entries.find? (key ∈ ·.1)).map (·.2)

/-- What a line means to commands that list their keys. -/
inductive Means (entries : List (List String × α)) (line : List Char) :
    Except CommandError (α × List Char) → Prop
  | nothing : (∀ c ∈ line, Text.isBlank c = true) → Means entries line (.error .noCommand)
  | key {word rest : List Char} {command : α} :
      Text.Begins line word rest → owner? entries (String.ofList word) = some command →
      Means entries line (.ok (command, Text.trimStart rest))
  | abbreviation {word rest : List Char} {key : String} {command : α} :
      Text.Begins line word rest → word <+: key.toList → owner? entries key = some command →
      (∀ other, (owner? entries other).isSome → word <+: other.toList → other = key) →
      Means entries line (.ok (command, Text.trimStart rest))
  | unknown {word rest : List Char} :
      Text.Begins line word rest →
      (∀ key, (owner? entries key).isSome → ¬ word <+: key.toList) →
      Means entries line (.error (.unknown (String.ofList word)))
  | ambiguous {word rest : List Char} {key other : String} :
      Text.Begins line word rest → owner? entries (String.ofList word) = none →
      (owner? entries key).isSome → (owner? entries other).isSome → key ≠ other →
      word <+: key.toList → word <+: other.toList →
      Means entries line (.error (.ambiguous (String.ofList word)))

/-! ## The order of the keys -/

/-- What lies between a word and a text that starts with it starts with it. -/
theorem prefix_of_not_lt {s t : List Char} (hs : ¬ s < word) (hst : ¬ t < s) (ht : word <+: t) :
    word <+: s := by
  induction word generalizing s t with
  | nil => exact List.nil_prefix
  | cons a word ih =>
      obtain ⟨rest, rfl⟩ := ht
      cases s with
      | nil => exact absurd (List.nil_lt_cons a word) hs
      | cons b s =>
          rw [List.cons_lt_cons_iff, not_or] at hs
          rw [List.cons_append, List.cons_lt_cons_iff, not_or] at hst
          obtain rfl : a = b := Char.le_antisymm (Char.not_lt.1 hs.1) (Char.not_lt.1 hst.1)
          exact List.cons_prefix_cons.2 ⟨rfl, ih (fun h => hs.2 ⟨rfl, h⟩)
            (fun h => hst.2 ⟨rfl, h⟩) (List.prefix_append word rest)⟩

theorem abbreviates_iff : abbreviates word key = true ↔ word <+: key.toList :=
  List.isPrefixOf_iff_prefix

/-- Keys in ascending order, each once. -/
def Ascending (keys : List (String × α)) : Prop := keys.Pairwise (·.1 < ·.1)

/-- From a key on that is not below a word, the keys that start with the word come first. -/
theorem takeWhile_keys (h : Ascending keys) (hword : ∀ e ∈ keys, ¬ e.1.toList < word) :
    keys.takeWhile (abbreviates word ·.1) = keys.filter (abbreviates word ·.1) := by
  induction keys with
  | nil => rfl
  | cons first rest ih =>
      obtain ⟨hfirst, hrest⟩ := List.pairwise_cons.1 h
      obtain ⟨hnot, hword⟩ := List.forall_mem_cons.1 hword
      cases habb : abbreviates word first.1 with
      | true =>
          rw [List.takeWhile_cons, if_pos habb, List.filter_cons, if_pos habb, ih hrest hword]
      | false =>
          have hnone : ∀ e ∈ first :: rest, ¬ abbreviates word e.1 = true := by
            refine List.forall_mem_cons.2 ⟨by rw [habb]; exact Bool.false_ne_true, ?_⟩
            intro e he hlater
            have hlt : first.1.toList < e.1.toList := String.lt_iff.1 (hfirst e he)
            have hbegins : abbreviates word first.1 = true := abbreviates_iff.2
              (prefix_of_not_lt hnot (fun hgt => List.lt_irrefl _ (List.lt_trans hlt hgt))
                (abbreviates_iff.1 hlater))
            rw [habb] at hbegins
            cases hbegins
          rw [List.takeWhile_cons, if_neg (hnone first List.mem_cons_self),
            List.filter_eq_nil_iff.2 hnone]

/-- The keys that start with a word are a run, which begins where those below the word end. -/
theorem takeWhile_dropWhile_keys (h : Ascending keys) (word : List Char) :
    (keys.dropWhile (·.1 < String.ofList word)).takeWhile (abbreviates word ·.1) =
      keys.filter (abbreviates word ·.1) := by
  induction keys with
  | nil => rfl
  | cons first rest ih =>
      obtain ⟨hfirst, hrest⟩ := List.pairwise_cons.1 h
      by_cases hlt : first.1 < String.ofList word
      · have hnot : ¬ abbreviates word first.1 = true := fun habb => by
          rw [String.lt_iff, String.toList_ofList] at hlt
          exact List.not_lt.2 (abbreviates_iff.1 habb).le hlt
        rw [List.dropWhile_cons, if_pos (decide_eq_true hlt), List.filter_cons, if_neg hnot,
          ih hrest]
      · rw [List.dropWhile_cons, if_neg (by simpa using hlt)]
        rw [String.lt_iff, String.toList_ofList] at hlt
        refine takeWhile_keys h (List.forall_mem_cons.2 ⟨hlt, fun e he hbelow => hlt ?_⟩)
        exact List.lt_trans (String.lt_iff.1 (hfirst e he)) hbelow

/-- The word is found among the keys that start with it. -/
theorem find_eq {map : CommandMap α} (h : Ascending map.keys) (word : List Char) :
    map.find word =
      match map.keys.filter (abbreviates word ·.1) with
      | [] => .error (.unknown (String.ofList word))
      | (key, command) :: more =>
          if key ≠ String.ofList word ∧ more ≠ [] then .error (.ambiguous (String.ofList word))
          else .ok command := by
  rw [← takeWhile_dropWhile_keys h, find]
  cases map.keys.dropWhile (·.1 < String.ofList word) with
  | nil => rfl
  | cons first rest =>
      obtain ⟨key, command⟩ := first
      cases habb : abbreviates word key with
      | false => simp [habb]
      | true =>
          cases rest with
          | nil => simp [habb]
          | cons second rest =>
              cases hnext : abbreviates word second.1 with
              | false => simp [habb, hnext]
              | true => simp [habb, hnext]

/-! ## The keys of a map -/

theorem lookup_eq_none_of_lt (h : ∀ e ∈ keys, key < e.1) : keys.lookup key = none := by
  rw [List.lookup_eq_none_iff]
  intro e he
  rw [bne_iff_ne]
  rintro rfl
  exact String.lt_irrefl _ (h e he)

theorem mem_insertKey {e : String × α} (he : e ∈ insertKey key command keys) :
    e = (key, command) ∨ e ∈ keys := by
  induction keys with
  | nil => exact .inl (List.mem_singleton.1 he)
  | cons first rest ih =>
      rw [insertKey] at he
      split at he
      · exact .inr he
      · split at he
        · exact List.mem_cons.1 he
        · rcases List.mem_cons.1 he with rfl | he
          · exact .inr List.mem_cons_self
          · exact (ih he).imp_right (List.mem_cons_of_mem _)

theorem ascending_insertKey (h : Ascending keys) (key : String) (command : α) :
    Ascending (insertKey key command keys) := by
  induction keys with
  | nil => exact List.pairwise_singleton _ _
  | cons first rest ih =>
      obtain ⟨hfirst, hrest⟩ := List.pairwise_cons.1 h
      rw [insertKey]
      split
      · exact h
      · next hne =>
          split
          · next hlt =>
              refine List.pairwise_cons.2 ⟨List.forall_mem_cons.2 ⟨hlt, fun e he => ?_⟩, h⟩
              exact String.lt_trans hlt (hfirst e he)
          · next hnlt =>
              refine List.pairwise_cons.2 ⟨fun e he => ?_, ih hrest⟩
              rcases mem_insertKey he with rfl | he
              · exact String.not_le.1 fun hle => hne (String.le_antisymm hle (String.not_lt.1 hnlt))
              · exact hfirst e he

/-- A key that is there already keeps its command. -/
theorem lookup_insertKey (h : Ascending keys) (key : String) (command : α) (k : String) :
    (insertKey key command keys).lookup k =
      (keys.lookup k).or (([(key, command)] : List (String × α)).lookup k) := by
  induction keys with
  | nil => rfl
  | cons first rest ih =>
      obtain ⟨hfirst, hrest⟩ := List.pairwise_cons.1 h
      obtain ⟨other, owner⟩ := first
      rw [insertKey]
      split
      · next heq =>
          subst heq
          rw [List.lookup_cons, List.lookup_cons]
          split
          · rfl
          · rw [List.lookup_nil, Option.or_none]
      · split
        · next hlt =>
            cases hk : k == key with
            | true =>
                have hnone : ((other, owner) :: rest).lookup k = none := by
                  rw [eq_of_beq hk]
                  exact lookup_eq_none_of_lt (List.forall_mem_cons.2
                    ⟨hlt, fun e he => String.lt_trans hlt (hfirst e he)⟩)
                rw [hnone, Option.none_or]
                simp only [List.lookup_cons, hk]
            | false => simp only [List.lookup_cons, hk, List.lookup_nil, Option.or_none]
        · next hnlt =>
            rw [List.lookup_cons, List.lookup_cons, ih hrest]
            split
            · rfl
            · rfl

/-- Every key with the command that lists it, in the order of the listing. -/
def listed (entries : List (List String × α)) : List (String × α) :=
  entries.flatMap fun (names, command) => names.map (·, command)

theorem keys_ofList (entries : List (List String × α)) :
    (ofList entries).keys = (listed entries).foldl (fun keys e => insertKey e.1 e.2 keys) [] := by
  rw [ofList, listed, List.foldl_flatMap]
  simp only [List.foldl_map]

theorem owner?_eq_lookup (entries : List (List String × α)) (key : String) :
    owner? entries key = (listed entries).lookup key := by
  induction entries with
  | nil => rfl
  | cons first rest ih =>
      obtain ⟨names, command⟩ := first
      have hnames : (names.map (·, command)).lookup key =
          if key ∈ names then some command else none := by
        induction names with
        | nil => rfl
        | cons name names ih =>
            by_cases hname : key = name
            · simp [hname]
            · simp [List.lookup_cons, beq_false_of_ne hname, hname, ih]
      rw [show listed ((names, command) :: rest) = names.map (·, command) ++ listed rest from rfl,
        List.lookup_append, ← ih, hnames, owner?, owner?, List.find?_cons]
      by_cases hkey : key ∈ names
      · simp [hkey]
      · simp [hkey]

theorem ascending_foldl (h : Ascending keys) (more : List (String × α)) :
    Ascending (more.foldl (fun keys e => insertKey e.1 e.2 keys) keys) := by
  induction more generalizing keys with
  | nil => exact h
  | cons first rest ih => exact ih (ascending_insertKey h first.1 first.2)

theorem lookup_foldl (h : Ascending keys) (more : List (String × α)) (k : String) :
    (more.foldl (fun keys e => insertKey e.1 e.2 keys) keys).lookup k =
      (keys.lookup k).or (more.lookup k) := by
  induction more generalizing keys with
  | nil => rw [List.foldl_nil, List.lookup_nil, Option.or_none]
  | cons first rest ih =>
      rw [List.foldl_cons, ih (ascending_insertKey h first.1 first.2), lookup_insertKey h,
        Option.or_assoc, ← List.lookup_append, List.singleton_append]

theorem ascending_ofList (entries : List (List String × α)) : Ascending (ofList entries).keys := by
  rw [keys_ofList]
  exact ascending_foldl List.Pairwise.nil _

theorem lookup_ofList (entries : List (List String × α)) (key : String) :
    (ofList entries).keys.lookup key = owner? entries key := by
  rw [keys_ofList, lookup_foldl List.Pairwise.nil, owner?_eq_lookup, List.lookup_nil,
    Option.none_or]

theorem mem_iff_lookup (h : Ascending keys) :
    (key, command) ∈ keys ↔ keys.lookup key = some command := by
  constructor
  · intro hmem
    induction keys with
    | nil => cases hmem
    | cons first rest ih =>
        obtain ⟨hfirst, hrest⟩ := List.pairwise_cons.1 h
        rcases List.mem_cons.1 hmem with rfl | hmem
        · simp
        · have hlt : first.1 < key := hfirst _ hmem
          have hne : (key == first.1) = false :=
            beq_false_of_ne fun heq => String.lt_irrefl key (heq ▸ hlt)
          rw [List.lookup_cons, hne]
          exact ih hrest hmem
  · intro hlookup
    obtain ⟨before, after, rfl, -⟩ := List.lookup_eq_some_iff.1 hlookup
    simp

/-! ## Words and lines -/

theorem mem_candidates {e : String × α} :
    e ∈ (ofList entries).keys.filter (abbreviates word ·.1) ↔
      owner? entries e.1 = some e.2 ∧ word <+: e.1.toList := by
  rw [List.mem_filter, mem_iff_lookup (ascending_ofList entries), lookup_ofList, abbreviates_iff]

theorem find_of_key (h : owner? entries (String.ofList word) = some command) :
    (ofList entries).find word = .ok command := by
  have hmem : (String.ofList word, command) ∈
      (ofList entries).keys.filter (abbreviates word ·.1) :=
    mem_candidates.2 ⟨h, by simp⟩
  have hsorted : Ascending _ := (ascending_ofList entries).filter (abbreviates word ·.1)
  rw [find_eq (ascending_ofList entries)]
  cases hall : (ofList entries).keys.filter (abbreviates word ·.1) with
  | nil =>
      rw [hall] at hmem
      cases hmem
  | cons first more =>
      rw [hall] at hmem hsorted
      rcases List.mem_cons.1 hmem with rfl | hmore
      · simp
      · -- no key that starts with the word comes before the word
        have hpre : word <+: first.1.toList :=
          (mem_candidates.1 (hall ▸ List.mem_cons_self : first ∈ _)).2
        have hlt := List.rel_of_pairwise_cons hsorted hmore
        rw [String.lt_iff, String.toList_ofList] at hlt
        exact absurd hlt (List.not_lt.2 hpre.le)

theorem find_of_no_key (h : ∀ key, (owner? entries key).isSome → ¬ word <+: key.toList) :
    (ofList entries).find word = .error (.unknown (String.ofList word)) := by
  have hnone : (ofList entries).keys.filter (abbreviates word ·.1) = [] := by
    rw [List.eq_nil_iff_forall_not_mem]
    intro e he
    obtain ⟨howner, hpre⟩ := mem_candidates.1 he
    exact h e.1 (by rw [howner]; rfl) hpre
  rw [find_eq (ascending_ofList entries), hnone]

theorem find_of_one_key (hkey : owner? entries key = some command) (hpre : word <+: key.toList)
    (hone : ∀ other, (owner? entries other).isSome → word <+: other.toList → other = key) :
    (ofList entries).find word = .ok command := by
  have hmem : (key, command) ∈ (ofList entries).keys.filter (abbreviates word ·.1) :=
    mem_candidates.2 ⟨hkey, hpre⟩
  have hsame : ∀ e ∈ (ofList entries).keys.filter (abbreviates word ·.1), e.1 = key := by
    intro e he
    obtain ⟨howner, hpre⟩ := mem_candidates.1 he
    exact hone e.1 (by rw [howner]; rfl) hpre
  have hsorted : Ascending _ := (ascending_ofList entries).filter (abbreviates word ·.1)
  rw [find_eq (ascending_ofList entries)]
  cases hall : (ofList entries).keys.filter (abbreviates word ·.1) with
  | nil =>
      rw [hall] at hmem
      cases hmem
  | cons first more =>
      rw [hall] at hmem hsame hsorted
      obtain ⟨hfirst, hmore⟩ := List.forall_mem_cons.1 hsame
      cases more with
      | nil =>
          rw [List.mem_singleton] at hmem
          rw [← hmem]
          simp
      | cons second more =>
          have hlt := List.rel_of_pairwise_cons hsorted List.mem_cons_self
          rw [hfirst, hmore second List.mem_cons_self] at hlt
          exact absurd hlt (String.lt_irrefl key)

theorem find_of_keys {other : String} (hword : owner? entries (String.ofList word) = none)
    (hkey : (owner? entries key).isSome) (hother : (owner? entries other).isSome)
    (hne : key ≠ other) (hpre : word <+: key.toList) (hpre' : word <+: other.toList) :
    (ofList entries).find word = .error (.ambiguous (String.ofList word)) := by
  obtain ⟨command, hkey⟩ := Option.isSome_iff_exists.1 hkey
  obtain ⟨command', hother⟩ := Option.isSome_iff_exists.1 hother
  have hmem : (key, command) ∈ (ofList entries).keys.filter (abbreviates word ·.1) :=
    mem_candidates.2 ⟨hkey, hpre⟩
  have hmem' : (other, command') ∈ (ofList entries).keys.filter (abbreviates word ·.1) :=
    mem_candidates.2 ⟨hother, hpre'⟩
  rw [find_eq (ascending_ofList entries)]
  cases hall : (ofList entries).keys.filter (abbreviates word ·.1) with
  | nil =>
      rw [hall] at hmem
      cases hmem
  | cons first more =>
      have hfirst : first.1 ≠ String.ofList word := by
        intro heq
        have howner := (mem_candidates.1 (hall ▸ List.mem_cons_self : first ∈ _)).1
        rw [heq, hword] at howner
        cases howner
      rw [hall] at hmem hmem'
      have hmore : more ≠ [] := by
        rintro rfl
        rw [List.mem_singleton] at hmem hmem'
        exact hne (congrArg Prod.fst (hmem.trans hmem'.symm))
      exact if_pos ⟨hfirst, hmore⟩

theorem resolve_of_blank (map : CommandMap α) (h : ∀ c ∈ line, Text.isBlank c = true) :
    map.resolve line = .error .noCommand := by
  rw [resolve, Text.trimStart_eq_nil_iff.2 h]
  rfl

theorem resolve_of_begins (map : CommandMap α) (h : Text.Begins line word rest) :
    map.resolve line = (map.find word).map (·, Text.trimStart rest) := by
  have hword : word.isEmpty = false := by simpa using h.nonempty
  rw [resolve, h.splitWord_trimStart]
  dsimp only
  rw [if_neg (by rw [hword]; exact Bool.false_ne_true)]
  cases map.find word with
  | error error => rfl
  | ok command => rfl

theorem Means.resolve_eq {answer : Except CommandError (α × List Char)}
    (h : Means entries line answer) : (ofList entries).resolve line = answer := by
  cases h with
  | nothing hblank => exact resolve_of_blank _ hblank
  | key hline hkey => rw [resolve_of_begins _ hline, find_of_key hkey]; rfl
  | abbreviation hline hpre hkey hone =>
      rw [resolve_of_begins _ hline, find_of_one_key hkey hpre hone]; rfl
  | unknown hline hnone => rw [resolve_of_begins _ hline, find_of_no_key hnone]; rfl
  | ambiguous hline hword hkey hother hne hpre hpre' =>
      rw [resolve_of_begins _ hline, find_of_keys hword hkey hother hne hpre hpre']; rfl

/-- There is a rule for every line. -/
theorem exists_means (entries : List (List String × α)) (line : List Char) :
    ∃ answer, Means entries line answer := by
  by_cases hblank : ∀ c ∈ line, Text.isBlank c = true
  · exact ⟨_, .nothing hblank⟩
  obtain ⟨word, rest, hline⟩ := Text.exists_begins hblank
  cases hword : owner? entries (String.ofList word) with
  | some command => exact ⟨_, .key hline hword⟩
  | none =>
      by_cases hnone : ∀ key, (owner? entries key).isSome → ¬ word <+: key.toList
      · exact ⟨_, .unknown hline hnone⟩
      simp only [not_forall, not_not, exists_prop] at hnone
      obtain ⟨key, hkey, hpre⟩ := hnone
      obtain ⟨command, howner⟩ := Option.isSome_iff_exists.1 hkey
      by_cases hone : ∀ other, (owner? entries other).isSome → word <+: other.toList → other = key
      · exact ⟨_, .abbreviation hline hpre howner hone⟩
      simp only [not_forall, exists_prop] at hone
      obtain ⟨other, hother, hpre', hne⟩ := hone
      exact ⟨_, .ambiguous hline hword hkey hother (Ne.symm hne) hpre hpre'⟩

/-- Only blank lines give no command. -/
theorem resolve_eq_noCommand_iff :
    (ofList entries).resolve line = .error .noCommand ↔ ∀ c ∈ line, Text.isBlank c = true := by
  refine ⟨fun h => ?_, resolve_of_blank _⟩
  obtain ⟨answer, hmeans⟩ := exists_means entries line
  rw [hmeans.resolve_eq] at h
  subst h
  cases hmeans with
  | nothing hblank => exact hblank

theorem mem_of_owner? (h : owner? entries key = some command) :
    command ∈ entries.map Prod.snd := by
  obtain ⟨entry, hfind, rfl⟩ := Option.map_eq_some_iff.1 h
  exact List.mem_map_of_mem (List.mem_of_find?_eq_some hfind)

/-- A line means one of the commands. -/
theorem mem_of_resolve (h : (ofList entries).resolve line = .ok (command, rest)) :
    command ∈ entries.map Prod.snd := by
  obtain ⟨answer, hmeans⟩ := exists_means entries line
  rw [hmeans.resolve_eq] at h
  subst h
  cases hmeans with
  | key _ howner => exact mem_of_owner? howner
  | abbreviation _ _ howner _ => exact mem_of_owner? howner

/-- The lookup gives an answer exactly if the line means it. -/
theorem resolve_eq_iff_means (entries : List (List String × α)) (line : List Char)
    (answer : Except CommandError (α × List Char)) :
    (ofList entries).resolve line = answer ↔ Means entries line answer := by
  constructor
  · rintro rfl
    obtain ⟨answer, h⟩ := exists_means entries line
    rw [h.resolve_eq]
    exact h
  · exact Means.resolve_eq

end CommandMap

end TemplateTrace
