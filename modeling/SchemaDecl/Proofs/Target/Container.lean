import Mathlib.Logic.Function.Iterate
import SchemaDecl.Proofs.Target.Mapping

/-!
# Arrays inside arrays

A field of a record is a primitive kind or a reference inside any number of arrays.  A target with
growing arrays writes one container for each of them, around the type at the end.  That type is
spelled as an element as soon as one array is around it, which in Java tells the boxed kinds from
the others.  C has no containers, and spells one array at most.

## Main definitions

* `Java.isUnboxed`, `Java.isBoxed` — the types of primitive values in Java, and of their objects.

## Main results

* `Target.spell_iterate_array` — how arrays are written around a shape.
* `Target.mapField_iterate_array` — **the token of a field at every depth**.
-/

namespace SchemaDecl

/-- The types of primitive values. -/
def Java.isUnboxed (type : String) : Bool := ["int", "double", "float", "boolean"].contains type

/-- The types of objects that hold one primitive value. -/
def Java.isBoxed (type : String) : Bool := ["Integer", "Double", "Float", "Boolean"].contains type

theorem Java.isUnboxed_elementPrimitive (kind : Primitive) :
    Java.isUnboxed (Target.java.elementPrimitive kind) = false := by
  cases kind <;> decide

theorem Java.isBoxed_primitive (kind : Primitive) :
    Java.isBoxed (Target.java.primitive kind) = false := by
  cases kind <;> decide

namespace Target

/-- Arrays are written one around the other, and what is inside one is spelled as an element. -/
theorem spell_iterate_array (target : Target) (isPublic : Bool) (base : Shape) (n : Nat)
    (asElement : Bool) :
    target.spell isPublic (Shape.array^[n] base) asElement
      = target.container^[n] (target.spell isPublic base (asElement || decide (0 < n))) := by
  induction n generalizing asElement with
  | zero => simp
  | succ n ih =>
    rw [Function.iterate_succ_apply', Function.iterate_succ_apply', spell, ih true]
    simp

/-- With growing arrays a field of any depth has its token, and the context stays as it is. -/
theorem mapField_iterate_of_growingArray {target : Target}
    (h : target.array = growingArray target.container) (owner name : String) (base : Shape)
    (n : Nat) (ctx : MapContext) :
    target.mapField owner ⟨name, Shape.array^[n] base⟩ ctx
      = .ok (.plain (target.container^[n]
          (target.spell ctx.isPublic base (decide (0 < n))))) ctx := by
  rw [mapField, mapShape_of_growingArray h, spell_iterate_array, Bool.false_or]

theorem spell_primitive_of_depth (target : Target) (isPublic : Bool) (kind : Primitive) (n : Nat) :
    target.spell isPublic (.primitive kind) (decide (0 < n))
      = if n = 0 then target.primitive kind else target.elementPrimitive kind := by
  cases n <;> rfl

/-- C spells a field exactly if at most one array is around its end. -/
theorem exists_mapField_c_iff {base : Shape} (hbase : base.isArray = false) (owner name : String)
    (n : Nat) (ctx : MapContext) :
    (∃ token, (Target.c.mapField owner ⟨name, Shape.array^[n] base⟩ ctx).token = .ok token) ↔
      n ≤ 1 := by
  have hc : Target.c ∈ Catalogue.builtin := by simp [Catalogue.builtin]
  have hfault := unsupported?_eq_none_iff .c owner ⟨name, Shape.array^[n] base⟩
  cases hsupported : Target.c.unsupported? owner ⟨name, Shape.array^[n] base⟩ with
  | none =>
    rw [mapField_of_supported hc hsupported]
    have hflat := hfault.mp hsupported rfl
    refine iff_of_true ⟨_, rfl⟩ ?_
    by_contra hn
    -- from two arrays on, the outermost two are an array of arrays
    obtain ⟨m, rfl⟩ : ∃ m, n = m + 2 := ⟨n - 2, by omega⟩
    apply hflat (Shape.array^[m] base)
    rw [Function.iterate_succ_apply', Function.iterate_succ_apply']
  | some e =>
    rw [mapField_of_unsupported hc hsupported]
    refine iff_of_false (by simp) fun hn => ?_
    rw [hfault.mpr ?_] at hsupported
    · cases hsupported
    · intro _ element heq
      have hn' : n = 0 ∨ n = 1 := by omega
      rcases hn' with rfl | rfl
      · rw [Function.iterate_zero_apply] at heq
        subst heq
        cases hbase
      · cases heq
        cases hbase

/-- **The token of a field at every depth.**  A target with growing arrays writes `n` of them around
the type at the end of the field: a reference as its declaration is spelled, a primitive kind as an
element if there is an array around it.  The context stays as it is.  So a list of Java, at any
depth, holds no unboxed values, and a field that is no list no boxed one.  C spells a field exactly
if at most one array is in it. -/
theorem mapField_iterate_array :
    (∀ target ∈ Catalogue.builtin, target.name ≠ "c" → ∀ owner name n ctx,
      (∀ kind, target.mapField owner ⟨name, Shape.array^[n] (.primitive kind)⟩ ctx
        = .ok ⟨target.container^[n]
            (if n = 0 then target.primitive kind else target.elementPrimitive kind), none⟩ ctx) ∧
      ∀ type, target.mapField owner ⟨name, Shape.array^[n] (.object type)⟩ ctx
        = .ok ⟨target.container^[n] (target.objectRef type ctx), none⟩ ctx) ∧
    (∀ owner name n kind ctx, ∃ base,
      Target.java.mapField owner ⟨name, Shape.array^[n] (.primitive kind)⟩ ctx
        = .ok ⟨(fun element => "List<" ++ element ++ ">")^[n] base, none⟩ ctx ∧
      (0 < n → Java.isUnboxed base = false) ∧ (n = 0 → Java.isBoxed base = false)) ∧
    ∀ owner name n base ctx, base.isArray = false →
      ((∃ token, (Target.c.mapField owner ⟨name, Shape.array^[n] base⟩ ctx).token = .ok token) ↔
        n ≤ 1) := by
  refine ⟨?_, ?_, ?_⟩
  · intro target htarget hname owner name n ctx
    have hgrowing : target.array = growingArray target.container := by
      rcases array_of_mem_builtin htarget with ⟨hc, -, -⟩ | ⟨-, hgrowing⟩
      · exact absurd hc hname
      · exact hgrowing
    refine ⟨fun kind => ?_, fun type => ?_⟩
    · rw [mapField_iterate_of_growingArray hgrowing, spell_primitive_of_depth]
      rfl
    · rw [mapField_iterate_of_growingArray hgrowing]
      rfl
  · -- Java boxes what stands in a list, and nothing else
    intro owner name n kind ctx
    refine ⟨_, mapField_iterate_of_growingArray rfl owner name (.primitive kind) n ctx, ?_, ?_⟩
    · intro hn
      rw [decide_eq_true hn]
      exact Java.isUnboxed_elementPrimitive kind
    · rintro rfl
      exact Java.isBoxed_primitive kind
  · intro owner name n base ctx hbase
    exact exists_mapField_c_iff hbase owner name n ctx

/-- A list of lists of numbers in Java, which C refuses. -/
theorem mapField_iterate_array_of_grid :
    Target.java.mapField "Grid" ⟨"cells", .array (.array (.primitive .integer))⟩ (.start true)
      = .ok ⟨"List<List<Integer>>", none⟩ (.start true) ∧
    ¬ ∃ token, (Target.c.mapField "Grid" ⟨"cells", .array (.array (.primitive .integer))⟩
      (.start true)).token = .ok token := by
  have hjava : Target.java ∈ Catalogue.builtin := by simp [Catalogue.builtin]
  obtain ⟨hcontainers, -, hc⟩ := mapField_iterate_array
  refine ⟨(hcontainers .java hjava (by decide) "Grid" "cells" 2 (.start true)).1 .integer, ?_⟩
  have := hc "Grid" "cells" 2 (.primitive .integer) (.start true) rfl
  exact fun h => absurd (this.mp h) (by omega)

end Target

end SchemaDecl
