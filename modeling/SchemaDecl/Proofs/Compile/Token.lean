import SchemaDecl.Proofs.Compile.Fault
import SchemaDecl.Proofs.Target.Spelling

/-!
# Which tokens agree

Compiling refuses two types of one spelling, so the tokens of an output file tell the shapes of
its fields apart, as far as the target tells them apart at all.  It does not refuse a type that
is spelled like a primitive kind or an array, and the token of such a type can be that of
another shape.

## Main definitions

* `TypeToken.Agrees` — two fields have the same type in an output file.

## Main results

* `Target.compile_tokens` — **tokens that agree are those of like shapes**, but for types that are
  spelled like something else.
* `Target.exists_ambiguous_token` — a type that is spelled so has the token of a number.
-/

namespace SchemaDecl

/-- Fields with these tokens have the same type in an output file: it is written in the same way,
and both or none are arrays by their capacity. -/
def TypeToken.Agrees (a b : TypeToken) : Prop :=
  a.type = b.type ∧ a.capacity.isSome = b.capacity.isSome

namespace Target

/-- The declared fields of an output file are fields of its records, spelled. -/
theorem exists_of_mem_sourceFile {target : Target} {options : Options} {root : Node}
    {records : List Record} {d : Declaration}
    (hd : d ∈ (target.sourceFile options root records).declarations) {f : DeclaredField}
    (hf : f ∈ d.fields) :
    ∃ record ∈ records, ∃ field ∈ record.fields,
      f = target.declaredField (target.showsPublic options) record.name field := by
  obtain ⟨record, hrecord, rfl⟩ := List.mem_map.mp hd
  obtain ⟨field, hfield, rfl⟩ := List.mem_map.mp hf
  exact ⟨record, hrecord, field, hfield, rfl⟩

/-- The tokens of an output file tell the shapes of its fields apart. -/
theorem mapKind_eq_of_assemble {target : Target} (htarget : target ∈ Catalogue.builtin)
    {options : Options} {root : Node} {file : SourceFile}
    (h : target.assemble options root = .ok file) {d e : Declaration}
    (hd : d ∈ file.declarations) (he : e ∈ file.declarations) {f g : DeclaredField}
    (hf : f ∈ d.fields) (hg : g ∈ e.fields)
    (hagrees : f.token.Agrees g.token)
    (hfg : ¬ target.Shadows (target.showsPublic options) f.shape g.shape)
    (hgf : ¬ target.Shadows (target.showsPublic options) g.shape f.shape) :
    f.shape.mapKind target.coarseKind = g.shape.mapKind target.coarseKind := by
  obtain ⟨records, hcollect, hfaults, rfl⟩ := (assemble_eq_ok_iff htarget options root file).mp h
  obtain ⟨htypes, -, hshapes⟩ := (faults_eq_nil_iff target _ records).mp hfaults
  have hback := refersBack_of_collectRecords hcollect
  obtain ⟨r, hr, field, hfield, rfl⟩ := exists_of_mem_sourceFile hd hf
  obtain ⟨s, hs, field', hfield', rfl⟩ := exists_of_mem_sourceFile he hg
  have hsupported : ∀ r ∈ records, ∀ f ∈ r.fields, target.unsupported? r.name f = none := by
    intro r hr f hf
    rw [unsupported?_eq_none_iff]
    exact fun hname => hshapes hname r hr f hf
  refine token_injective htarget (hsupported r hr field hfield) (hsupported s hs field' hfield')
    ?_ hfg hgf hagrees.1 hagrees.2
  -- both names are those of records, which compiling has told apart
  intro m n hm hn hspell
  have hm' : m ∈ r.refs := List.mem_filterMap.mpr ⟨field, hfield, hm⟩
  have hn' : n ∈ s.refs := List.mem_filterMap.mpr ⟨field', hfield', hn⟩
  exact htypes m (hback.mem_names hr hm') n (hback.mem_names hs hn') hspell

theorem eq_of_name_eq {s t : Target} (hs : s ∈ Catalogue.builtin) (ht : t ∈ Catalogue.builtin)
    (h : s.name = t.name) : s = t := by
  have hnodup : (Catalogue.builtin.map (·.name)).Nodup := by decide
  exact List.inj_on_of_nodup_map hnodup hs ht h

/-- **Tokens that agree are those of like shapes.**  If two declared fields of an output file have
tokens that agree, they have the same shape up to kinds that the target does not tell apart, or
one of them refers to a type that is spelled like a primitive kind, an element or an array in the
shape of the other.  In Rust only `String` is spelled so, and in public Go only what begins with
the brackets of an array. -/
theorem compile_tokens {target : Target} (htarget : target ∈ Catalogue.builtin)
    (options : Options) (root : Node) {text : String} (h : target.compile options root = .ok text) :
    ∃ file, target.assemble options root = .ok file ∧ text = target.render file ∧
      (∀ d ∈ file.declarations, ∀ e ∈ file.declarations, ∀ f ∈ d.fields, ∀ g ∈ e.fields,
        f.token.Agrees g.token →
        ¬ target.Shadows (target.showsPublic options) f.shape g.shape →
        ¬ target.Shadows (target.showsPublic options) g.shape f.shape →
        f.shape.mapKind target.coarseKind = g.shape.mapKind target.coarseKind) ∧
      ∀ name shape, target.SpelledIn (target.showsPublic options)
          (target.typeIdent (target.showsPublic options) name) shape →
        (target.name = "rust" → target.typeIdent (target.showsPublic options) name = "String") ∧
        (target.name = "go" → options.isPublic = true →
          ∃ element, target.typeIdent (target.showsPublic options) name = "[]" ++ element) := by
  obtain ⟨file, hassemble, htext⟩ := (compile_eq_ok_iff target options root text).mp h
  refine ⟨file, hassemble, htext, ?_, fun name shape hspelled => ⟨?_, ?_⟩⟩
  · intro d hd e he f hf g hg hagrees hfg hgf
    exact mapKind_eq_of_assemble htarget hassemble hd he hf hg hagrees hfg hgf
  · intro hname
    obtain rfl : target = .rust := eq_of_name_eq htarget (by simp [Catalogue.builtin]) hname
    exact typeIdent_rust_of_spelledIn hspelled
  · intro hname hpublic
    obtain rfl : target = .go := eq_of_name_eq htarget (by simp [Catalogue.builtin]) hname
    have hshows : Target.go.showsPublic options = true := by
      rw [showsPublic, hpublic]
      rfl
    rw [hshows] at hspelled ⊢
    exact typeIdent_go_of_spelledIn hspelled

/-- TypeScript has one type for the two kinds of numbers in this schema. -/
theorem compile_tokens_of_numbers :
    ∃ text file,
      Target.typescript.compile ⟨false, "main"⟩ (.object (some "Line")
        [("count", .primitive .integer), ("price", .primitive .decimal)]) = .ok text ∧
      Target.typescript.assemble ⟨false, "main"⟩ (.object (some "Line")
        [("count", .primitive .integer), ("price", .primitive .decimal)]) = .ok file ∧
      ∃ d ∈ file.declarations, ∃ f ∈ d.fields, ∃ g ∈ d.fields, f.shape ≠ g.shape ∧
        f.token.Agrees g.token ∧
        f.shape.mapKind Target.typescript.coarseKind
          = g.shape.mapKind Target.typescript.coarseKind := by
  have htypescript : Target.typescript ∈ Catalogue.builtin := by simp [Catalogue.builtin]
  obtain ⟨file, hassemble, -, htokens, -⟩ :=
    compile_tokens htypescript ⟨false, "main"⟩ (.object (some "Line")
      [("count", .primitive .integer), ("price", .primitive .decimal)]) rfl
  have hdeclarations : file.declarations =
      [⟨"Line", [⟨"count", "count", .primitive .integer, ⟨"number", none⟩⟩,
        ⟨"price", "price", .primitive .decimal, ⟨"number", none⟩⟩]⟩] := by
    obtain rfl := Except.ok.inj hassemble
    rfl
  have hshadow : ∀ kind shape, ¬ Target.typescript.Shadows false (.primitive kind) shape := by
    rintro kind shape ⟨name, hname, -⟩
    cases hname
  refine ⟨_, file, rfl, hassemble, ?_⟩
  rw [hdeclarations] at htokens ⊢
  refine ⟨_, List.mem_cons_self, _, List.mem_cons_self, _,
    List.mem_cons_of_mem _ List.mem_cons_self, by decide, ⟨rfl, rfl⟩, ?_⟩
  exact htokens _ List.mem_cons_self _ List.mem_cons_self _ List.mem_cons_self _
    (List.mem_cons_of_mem _ List.mem_cons_self) ⟨rfl, rfl⟩ (hshadow _ _) (hshadow _ _)

/-- In C a type of the name `int` and an integer have the same token. -/
theorem exists_ambiguous_token :
    ¬ ∀ target ∈ Catalogue.builtin, ∀ options root text, target.compile options root = .ok text →
      ∃ file, target.assemble options root = .ok file ∧ text = target.render file ∧
        ∀ d ∈ file.declarations, ∀ e ∈ file.declarations, ∀ f ∈ d.fields, ∀ g ∈ e.fields,
          f.token.Agrees g.token →
          f.shape.mapKind target.coarseKind = g.shape.mapKind target.coarseKind := by
  intro h
  have hc : Target.c ∈ Catalogue.builtin := by simp [Catalogue.builtin]
  obtain ⟨file, hassemble, -, htokens⟩ := h .c hc ⟨false, "main"⟩ (.object (some "Root")
    [("a", .object (.object (some "int") [])), ("b", .primitive .integer)]) _ rfl
  have hdeclarations : file.declarations =
      [⟨"int", []⟩, ⟨"Root", [⟨"a", "a", .object "int", ⟨"int", none⟩⟩,
        ⟨"b", "b", .primitive .integer, ⟨"int", none⟩⟩]⟩] := by
    obtain rfl := Except.ok.inj hassemble
    rfl
  rw [hdeclarations] at htokens
  have hsame := htokens _ (List.mem_cons_of_mem _ List.mem_cons_self)
    _ (List.mem_cons_of_mem _ List.mem_cons_self) _ List.mem_cons_self
    _ (List.mem_cons_of_mem _ List.mem_cons_self) ⟨rfl, rfl⟩
  cases hsame

end Target

end SchemaDecl
