import MeshAgent.Proofs.Yaml.Line

/-!
# Mappings that were written

A mapping with one entry or more is read back as the record that it was written from.
-/
namespace MeshAgent.Yaml

variable {es : List (String × Value)} {name : String}

/-! ## The text as a whole -/

lemma isOrdinary_of_mem_writeEntries (hnames : ∀ e ∈ es, IsName e.1) :
    ∀ x ∈ writeEntries es, ScalarStyle.isOrdinary x = true := by
  intro x hx
  obtain ⟨e, he, hin⟩ := List.mem_flatMap.mp hx
  simp only [writeEntry, List.mem_append, List.mem_cons, List.not_mem_nil, or_false] at hin
  rcases hin with (hin | rfl | rfl | hin) | rfl
  · exact isOrdinary_iff.mpr (.inr (.inr (isGlyph_of_isWordChar ((hnames e he).word x hin))))
  · rfl
  · rfl
  · exact e.2.isOrdinary_of_mem_write _ x hin
  · rfl

lemma length_writeEntries (es : List (String × Value)) :
    3 * es.length ≤ (writeEntries es).length := by
  induction es with
  | nil => exact Nat.zero_le _
  | cons e es ih =>
    rw [writeEntries_cons]
    simp only [List.length_append, List.length_cons]
    omega

theorem tokens_writeEntries (hnames : ∀ e ∈ es, IsName e.1) (hne : es ≠ []) :
    tokens (writeEntries es) =
      .ok (.blockMappingStart :: es.flatMap entryTokens ++ [.blockEnd]) := by
  have hallowed : (writeEntries es).all isAllowed = true :=
    List.all_eq_true.mpr fun x hx =>
      isAllowed_of_isOrdinary (isOrdinary_of_mem_writeEntries hnames x hx)
  have hmark : (writeEntries es).head? ≠ some '\uFEFF' := fun heq =>
    ne_mark_of_isGlyph ((startsLine_writeEntries hnames).glyph _ heq).1 rfl
  have hlength := length_writeEntries es
  rw [tokens, if_pos hallowed]
  simp only [hmark, if_false]
  exact Lexer.run_entries [] hnames rfl rfl (.inr hne) (by omega)

/-! ## Nodes -/

namespace Node

variable {i : Input} {s : String} {plain : Bool} {r : List Token} {fuel : Nat}

lemma read?_scalar (h : i.tokens = .scalar s plain :: r) (block flat : Bool) (fuel : Nat) :
    read? (fuel + 1) block flat i =
      some (.scalar (scalarTag none s plain) s, { i with tokens := r }) := by
  simp [read?, properties?, Input.mark, h]

lemma blockPart?_scalar (h : i.tokens = .scalar s plain :: r) (fuel : Nat) :
    blockPart? (fuel + 2) i =
      some (.scalar (scalarTag none s plain) s, { i with tokens := r }) := by
  have hsees : i.sees blockStops = false := by simp [Input.sees, h, blockStops]
  rw [blockPart?, hsees, if_neg Bool.false_ne_true, read?_scalar h]

def entryNodes (e : String × Value) : Node × Node := (.scalar Tag.text e.1, e.2.node)

/-- The nodes of a mapping are those of its entries. -/
lemma blockEntries?_entries (hnames : ∀ e ∈ es, IsName e.1)
    (h : i.tokens = es.flatMap entryTokens ++ .blockEnd :: r) (hfuel : es.length + 2 ≤ fuel) :
    blockEntries? fuel i = some (es.map entryNodes, { i with tokens := r }) := by
  induction es generalizing i fuel with
  | nil =>
    obtain ⟨fuel, rfl⟩ : ∃ k, fuel = k + 1 := ⟨fuel - 1, by omega⟩
    rw [List.flatMap_nil, List.nil_append] at h
    simp [blockEntries?, h, Input.next]
  | cons e es ih =>
    obtain ⟨fuel, rfl⟩ : ∃ k, fuel = k + 3 := ⟨fuel - 3, by simp at hfuel; omega⟩
    rw [List.forall_mem_cons] at hnames
    obtain ⟨s, plain, htoken, hnode⟩ := e.2.token_eq
    have htokens : i.tokens = .key :: .scalar e.1 true :: .value :: .scalar s plain ::
        (es.flatMap entryTokens ++ .blockEnd :: r) := by
      rw [h, List.flatMap_cons, entryTokens, htoken]
      rfl
    have hkey : scalarTag none e.1 true = Tag.text := hnames.1.tag
    rw [blockEntries?, htokens]
    simp only [Input.next, htokens, List.tail_cons]
    rw [blockPart?_scalar rfl, hkey]
    simp only [Option.bind_eq_bind, Option.bind_some, Input.sees, List.head?_cons, Option.any_some,
      List.contains_cons, BEq.rfl, Bool.true_or, if_true, List.tail_cons]
    rw [blockPart?_scalar rfl, Option.bind_some, ih hnames.2 rfl (by simpa using hfuel),
      List.map_cons, entryNodes, hnode]
    rfl

lemma length_le_flatMap_entryTokens (es : List (String × Value)) :
    es.length ≤ (es.flatMap entryTokens).length := by
  induction es with
  | nil => exact Nat.zero_le _
  | cons e es ih =>
    simp only [List.flatMap_cons, List.length_cons, List.length_append, entryTokens]
    omega

lemma single?_entries (hnames : ∀ e ∈ es, IsName e.1) :
    single? (.blockMappingStart :: es.flatMap entryTokens ++ [.blockEnd]) =
      some (some (.mapping Tag.mapping (es.map entryNodes))) := by
  have hlength := length_le_flatMap_entryTokens es
  have hentries : blockEntries? (8 * ((es.flatMap entryTokens).length + 1 + 1) + 7)
      { tokens := es.flatMap entryTokens ++ [.blockEnd], handles := defaultHandles } =
      some (es.map entryNodes, { tokens := [], handles := defaultHandles }) :=
    blockEntries?_entries hnames rfl (by omega)
  simp [single?, document?, read?, properties?, Input.mark, Input.next, hentries, collectionTag,
    dropDocumentEnds, -List.length_flatMap]

/-! ## Values -/

/-- The parts of a written mapping are its own, and nothing is wrong with any of them. -/
lemma parts?_entries (hfits : ∀ e ∈ es, e.2.Fits) :
    parts? (es.map entryNodes) =
      some ([], es.map fun e => .done (Datum.text e.1, e.2.datum)) := by
  induction es with
  | nil => rfl
  | cons e es ih =>
    rw [List.forall_mem_cons] at hfits
    have hmerge : (scalar Tag.text e.1).tag ≠ Tag.merge := (by decide : Tag.text ≠ Tag.merge)
    have hkey : (scalar Tag.text e.1).key = .ok (.text e.1) := rfl
    rw [List.map_cons, entryNodes, parts?, if_neg hmerge, ih hfits.2, hkey,
      Value.value_node hfits.1]
    rfl

end Node

lemma Built.all_done {α : Type} (as : List α) : Built.all (as.map Built.done) = .done as := by
  induction as with
  | nil => rfl
  | cons a as ih =>
    rw [List.map_cons, Built.all, ih]
    rfl

lemma recordOf_texts (fields : List (String × Datum)) :
    recordOf (fields.map fun f => (.text f.1, f.2)) = .record fields := by
  simp [recordOf, List.filterMap_map]

/-- A written mapping is read as a record of the values that were written. -/
theorem load_writeEntries (hnames : ∀ e ∈ es, IsName e.1) (hfits : ∀ e ∈ es, e.2.Fits)
    (hne : es ≠ []) :
    load (writeEntries es) = .ok (.record (es.map fun e => (e.1, e.2.datum))) := by
  have hrecord := recordOf_texts (es.map fun e => (e.1, e.2.datum))
  rw [List.map_map] at hrecord
  have hparts : Built.all (es.map fun e => .done (Datum.text e.1, e.2.datum)) =
      .done (es.map fun e => (Datum.text e.1, e.2.datum)) := by
    rw [← Built.all_done, List.map_map]
    rfl
  have hvalue : (Node.mapping Tag.mapping (es.map Node.entryNodes)).value =
      .done (.record (es.map fun e => (e.1, e.2.datum))) := by
    rw [Node.value, Node.parts?_entries hfits]
    simp only [List.nil_append, hparts, if_true, Built.map_done, Built.deeper_done]
    exact congrArg Built.done hrecord
  rw [load, tokens_writeEntries hnames hne]
  simp only [bind, Except.bind, Node.single?_entries hnames, orRefused_some, hvalue]
  rfl

end MeshAgent.Yaml
