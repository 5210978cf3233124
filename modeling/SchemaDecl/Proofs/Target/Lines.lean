import Mathlib.Data.String.Basic
import SchemaDecl.Proofs.List
import SchemaDecl.Target.SourceFile

/-!
# The lines of a file

A layout is written line by line, with an empty line between two blocks.  So a line can be told
from the text if it has no line break, and a block if it has no empty line.  A file whose lines
are such has one layout only.

## Main definitions

* `Text.isLine` — a text that can stand as a line.
* `Layout.Legible` — all lines of a layout are such.
* `Block.StandsIn` — lines stand in a text, whether they can be told from it or not.

## Main results

* `Layout.text_eq_block_text` — a layout is written as one block, with empty lines in it.
* `Layout.text_injective` — **a legible layout can be read back from its text**.
* `Layout.text_cons_injective` — the same behind a first block of any kind.
* `Layout.standsIn_text` — the lines of a block stand in the text.
-/

namespace SchemaDecl

namespace Text

/-- Whether a text has no line break in it. -/
def isUnbroken (s : String) : Bool := s.toList.all fun c => c != '\n'

/-- Whether a text can stand as a line: it has no line break, and it is not empty. -/
def isLine (s : String) : Bool := s != "" && isUnbroken s

@[simp] theorem isUnbroken_append (s t : String) :
    isUnbroken (s ++ t) = (isUnbroken s && isUnbroken t) := by
  rw [isUnbroken, String.toList_append, List.all_append]
  rfl

theorem not_mem_of_isUnbroken {s : String} (h : isUnbroken s = true) : '\n' ∉ s.toList := by
  intro hmem
  have hne := List.all_eq_true.mp h '\n' hmem
  exact absurd hne (by decide)

@[simp] theorem isLine_append (s t : String) :
    isLine (s ++ t) = (isLine s && isUnbroken t || isUnbroken s && isLine t) := by
  have hempty : (s ++ t != "") = (s != "" || t != "") := by
    rw [Bool.eq_iff_iff, Bool.or_eq_true_iff, bne_iff_ne, bne_iff_ne, bne_iff_ne, ne_eq,
      String.append_eq_empty_iff, not_and_or]
  rw [isLine, isLine, isLine, isUnbroken_append, hempty]
  cases s != "" <;> cases t != "" <;> cases isUnbroken s <;> cases isUnbroken t <;> rfl

end Text

/-! ### Blocks -/

theorem Block.text_cons (line : String) (lines : Block) :
    Block.text (line :: lines) = line ++ "\n" ++ Block.text lines := by
  apply String.toList_injective
  simp [Block.text]

theorem Block.text_append (lines lines' : Block) :
    Block.text (lines ++ lines') = Block.text lines ++ Block.text lines' := by
  apply String.toList_injective
  simp [Block.text]

/-- The text of a block, as pieces between line breaks.  There is an empty one at the end. -/
theorem Block.toList_text (lines : Block) :
    (Block.text lines).toList = ['\n'].intercalate (lines.map String.toList ++ [[]]) := by
  induction lines with
  | nil => rfl
  | cons line rest ih =>
    have hrest : rest.map String.toList ++ [[]] ≠ [] := by simp
    obtain ⟨piece, pieces, hpieces⟩ := List.exists_cons_of_ne_nil hrest
    rw [Block.text_cons, String.toList_append, String.toList_append, ih, List.map_cons,
      List.cons_append, hpieces, List.intercalate_cons_cons]
    rfl

/-- Lines without breaks can be read back from the text of their block. -/
theorem Block.text_injective {lines lines' : Block} (h : ∀ l ∈ lines, Text.isUnbroken l = true)
    (h' : ∀ l ∈ lines', Text.isUnbroken l = true) (htext : Block.text lines = Block.text lines') :
    lines = lines' := by
  have hsplit : ∀ {lines : Block}, (∀ l ∈ lines, Text.isUnbroken l = true) →
      (Block.text lines).toList.splitOn '\n' = lines.map String.toList ++ [[]] := by
    intro lines h
    rw [Block.toList_text]
    refine List.splitOn_intercalate '\n' (fun piece hpiece => ?_) (by simp)
    rcases List.mem_append.mp hpiece with hpiece | hpiece
    · obtain ⟨line, hline, rfl⟩ := List.mem_map.mp hpiece
      exact Text.not_mem_of_isUnbroken (h line hline)
    · rw [List.mem_singleton.mp hpiece]
      exact List.not_mem_nil
  have hpieces : lines.map String.toList ++ [[]] = lines'.map String.toList ++ [[]] := by
    rw [← hsplit h, htext, hsplit h']
  exact List.map_injective_iff.mpr (fun _ _ => String.toList_injective)
    (List.append_left_injective [[]] hpieces)

/-- The lines stand in the text, one below the other. -/
def Block.StandsIn (lines : Block) (text : String) : Prop :=
  ∃ before after, text = before ++ Block.text lines ++ after

/-- Lines of a block stand in its text. -/
theorem Block.standsIn_of_infix {lines block : Block} (h : lines <:+: block) :
    lines.StandsIn (Block.text block) := by
  obtain ⟨before, after, rfl⟩ := h
  exact ⟨Block.text before, Block.text after, by rw [Block.text_append, Block.text_append]⟩

/-! ### Layouts -/

namespace Layout

/-- Every line of the layout can stand as one. -/
def Legible (blocks : Layout) : Prop := ∀ b ∈ blocks, ∀ l ∈ b, Text.isLine l = true

theorem legible_append {blocks blocks' : Layout} :
    Legible (blocks ++ blocks') ↔ blocks.Legible ∧ blocks'.Legible := List.forall_mem_append

/-- A layout is written as one block, with an empty line between two of its blocks. -/
theorem text_eq_block_text (blocks : Layout) :
    blocks.text = Block.text ([""].intercalate blocks) := by
  induction blocks with
  | nil => rfl
  | cons b rest ih =>
    cases rest with
    | nil => simp [Layout.text]
    | cons b' rest =>
      rw [List.intercalate_cons_cons, Block.text_append, Block.text_append, ← ih, Layout.text,
        List.map_cons, List.map_cons, String.intercalate_cons_cons]
      rfl

/-- **Lines of a block stand in the text of the layout.** -/
theorem standsIn_text {blocks : Layout} {b lines : Block} (hb : b ∈ blocks) (h : lines <:+: b) :
    lines.StandsIn blocks.text := by
  rw [text_eq_block_text]
  exact Block.standsIn_of_infix (h.trans (List.infix_intercalate hb [""]))

/-- No line of a legible layout has a break, nor have the empty ones between its blocks. -/
theorem Legible.isUnbroken {blocks : Layout} (h : blocks.Legible) :
    ∀ l ∈ [""].intercalate blocks, Text.isUnbroken l = true := by
  intro l hl
  rcases List.eq_or_mem_of_mem_intercalate hl with rfl | ⟨b, hb, hl⟩
  · rfl
  · exact (Bool.and_eq_true_iff.mp (h b hb l hl)).2

/-- **A legible layout can be read back from its text.** -/
theorem text_injective {blocks blocks' : Layout} (hne : blocks ≠ []) (hne' : blocks' ≠ [])
    (h : blocks.Legible) (h' : blocks'.Legible) (htext : blocks.text = blocks'.text) :
    blocks = blocks' := by
  -- blocks have no empty line, so they end where one is
  have hsplit : ∀ {blocks : Layout}, blocks ≠ [] → blocks.Legible →
      ([""].intercalate blocks).splitOn "" = blocks := by
    intro blocks hne h
    refine List.splitOn_intercalate "" (fun b hb hempty => ?_) hne
    exact absurd (h b hb "" hempty) (by decide)
  rw [text_eq_block_text, text_eq_block_text] at htext
  have hlines := Block.text_injective h.isUnbroken h'.isUnbroken htext
  rw [← hsplit hne h, hlines, hsplit hne' h']

theorem text_cons (block : Block) (blocks : Layout) :
    Layout.text (block :: blocks) = Block.text block ++ Layout.text ([] :: blocks) := by
  have hsplit := @String.intercalate_cons_append "\n" (Block.text block) "" (blocks.map Block.text)
  rwa [String.append_empty] at hsplit

/-- The legible blocks behind a first block of any kind can be read back from the text. -/
theorem text_cons_injective (block : Block) {blocks blocks' : Layout} (h : blocks.Legible)
    (h' : blocks'.Legible) (htext : Layout.text (block :: blocks) = Layout.text (block :: blocks')) :
    blocks = blocks' := by
  -- an empty block takes the place of the first one, which may be illegible
  have hempty : Legible [([] : Block)] := by
    intro b hb l hl
    rw [List.mem_singleton.mp hb] at hl
    cases hl
  rw [text_cons, text_cons block blocks'] at htext
  have hrest := (String.append_right_inj _).mp htext
  have hblocks : [] :: blocks = [] :: blocks' :=
    text_injective (List.cons_ne_nil _ _) (List.cons_ne_nil _ _)
      (legible_append.mpr ⟨hempty, h⟩) (legible_append.mpr ⟨hempty, h'⟩) hrest
  exact List.tail_eq_of_cons_eq hblocks

end Layout

end SchemaDecl
