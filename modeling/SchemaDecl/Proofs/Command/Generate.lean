import SchemaDecl.Command.Session
import SchemaDecl.Proofs.Command.Disk

/-!
# The command `generate` is all or nothing

The command goes through five stages: it selects a target, reads the schema, parses it, compiles
it, and delivers the code.  Only the last one can touch the disk, and it does so once.  So either
all stages succeed, and the code is in one place, the standard output or the file that was asked
for; or the first stage that fails is reported, and nothing else has happened.  The schema has
been read before anything is written, so the output may replace it.

## Main definitions

* `Surroundings.Produces` — the first four stages end in some code.
* `Surroundings.Delivered` — what a call leaves that delivers some code.
* `Surroundings.FirstFault` — the error of the first stage that fails.

## Main results

* `readSchema_eq` — the two stages that make a schema.
* `Surroundings.produces_or_firstFault` — the four stages before the delivery.
* `Surroundings.run_generate` — **a call delivers its code in one place, or reports the first fault
  and changes nothing**.
-/

theorem Except.eq_ok_of_toOption {ε α : Type} {x : Except ε α} {a : α}
    (h : x.toOption = some a) : x = .ok a := by
  cases x with
  | error e => cases h
  | ok b => rw [Option.some.inj h]

namespace SchemaDecl.Command

/-- A schema is read from a text, or the text is not there, or it is no schema. -/
theorem readSchema_eq (g : GenerateArgs) (input : Except FileError ByteArray) :
    readSchema g input
      = match input.bind textOf with
        | .error cause => .error (.reading g.schemaPath? cause)
        | .ok text => ((Node.ofText text).mapError .parsing).map (withDefaultTitle g.name) := by
  cases input with
  | error cause => rfl
  | ok bytes =>
    have hbind : (Except.ok bytes : Except FileError ByteArray).bind textOf = textOf bytes := rfl
    rw [hbind, readSchema]
    cases htext : textOf bytes with
    | error cause =>
      dsimp only [bind, Except.bind, Except.mapError]
      rw [htext]
    | ok text =>
      dsimp only [bind, Except.bind, Except.mapError]
      rw [htext]
      dsimp only
      cases Node.ofText text <;> rfl

namespace Surroundings

/-- The first four stages select the target, read and parse the schema, and compile it to the
code. -/
structure Produces (s : Surroundings) (g : GenerateArgs) (target : Target) (root : Node)
    (code : String) : Prop where
  selects : selectTarget g s.settings = .ok target
  reads : ∃ text, (s.schemaBytes g).bind textOf = .ok text ∧ Node.ofText text = .ok root
  compiles :
    target.compile (options g s.settings) (withDefaultTitle g.name root) = .ok code

/-- What a call leaves that delivers the code: it stands on the standard output, and the disk is as
it was; or it stands in the output file, and nowhere else. -/
inductive Delivered (s : Surroundings) (g : GenerateArgs) (code : String) : Outcome → Prop
  | output (hpath : g.output = none) : Delivered s g code ⟨0, code, "", s.disk⟩
  | file {path : String} {location : Location} {disk : Disk} (hpath : g.output = some path)
      (hdisk : s.disk.Written path code.toUTF8 location disk) :
      Delivered s g code ⟨0, "", "Generated " ++ path ++ "\n", disk⟩

/-- The error of the first stage that fails. -/
inductive FirstFault (s : Surroundings) (g : GenerateArgs) : GenerateError → Prop
  | selecting {e : GenerateError} (hselect : selectTarget g s.settings = .error e) :
      FirstFault s g e
  | reading {target : Target} {cause : FileError}
      (hselect : selectTarget g s.settings = .ok target)
      (hread : (s.schemaBytes g).bind textOf = .error cause) :
      FirstFault s g (.reading g.schemaPath? cause)
  | parsing {target : Target} {text : String} {cause : SchemaError}
      (hselect : selectTarget g s.settings = .ok target)
      (hread : (s.schemaBytes g).bind textOf = .ok text)
      (hparse : Node.ofText text = .error cause) :
      FirstFault s g (.parsing cause)
  | compiling {target : Target} {text : String} {root : Node} {cause : CompileError}
      (hselect : selectTarget g s.settings = .ok target)
      (hread : (s.schemaBytes g).bind textOf = .ok text)
      (hparse : Node.ofText text = .ok root)
      (hcompile : target.compile (options g s.settings) (withDefaultTitle g.name root)
        = .error cause) :
      FirstFault s g (.compiling target.name cause)
  | writing {target : Target} {root : Node} {code path : String} {cause : FileError}
      (hproduces : s.Produces g target root code) (hpath : g.output = some path)
      (hwrite : s.disk.write path code.toUTF8 = .error cause) :
      FirstFault s g (.writing path cause)

/-- The code of a call is determined. -/
theorem Produces.unique {s : Surroundings} {g : GenerateArgs} {target target' : Target}
    {root root' : Node} {code code' : String} (h : s.Produces g target root code)
    (h' : s.Produces g target' root' code') : code = code' := by
  obtain ⟨hselect, ⟨text, hread, hparse⟩, hcompile⟩ := h
  obtain ⟨hselect', ⟨text', hread', hparse'⟩, hcompile'⟩ := h'
  obtain rfl := Except.ok.inj (hselect.symm.trans hselect')
  obtain rfl := Except.ok.inj (hread.symm.trans hread')
  obtain rfl := Except.ok.inj (hparse.symm.trans hparse')
  exact Except.ok.inj (hcompile.symm.trans hcompile')

/-- Where there is code, only its delivery can fail. -/
theorem Produces.eq_writing {s : Surroundings} {g : GenerateArgs} {target : Target} {root : Node}
    {code : String} (h : s.Produces g target root code) {e : GenerateError}
    (he : s.FirstFault g e) :
    ∃ path cause, g.output = some path ∧ s.disk.write path code.toUTF8 = .error cause ∧
      e = .writing path cause := by
  obtain ⟨hselect, ⟨text, hread, hparse⟩, hcompile⟩ := id h
  cases he with
  | selecting hselect' => cases hselect.symm.trans hselect'
  | reading _ hread' => cases hread.symm.trans hread'
  | parsing _ hread' hparse' =>
    obtain rfl := Except.ok.inj (hread.symm.trans hread')
    cases hparse.symm.trans hparse'
  | compiling hselect' hread' hparse' hcompile' =>
    obtain rfl := Except.ok.inj (hselect.symm.trans hselect')
    obtain rfl := Except.ok.inj (hread.symm.trans hread')
    obtain rfl := Except.ok.inj (hparse.symm.trans hparse')
    cases hcompile.symm.trans hcompile'
  | writing hproduces hpath hwrite =>
    obtain rfl := h.unique hproduces
    exact ⟨_, _, hpath, hwrite, rfl⟩

/-- **The stages before the delivery** end in the code, or in the first fault of them. -/
theorem produces_or_firstFault (s : Surroundings) (g : GenerateArgs) :
    (∃ target root code, s.Produces g target root code ∧
      Command.generate g s.settings (s.schemaBytes g) = .ok ⟨code, g.output⟩) ∨
    ∃ e, s.FirstFault g e ∧ Command.generate g s.settings (s.schemaBytes g) = .error e := by
  rw [Command.generate, readSchema_eq]
  -- stage by stage, as the call goes through them
  cases hselect : selectTarget g s.settings with
  | error e => exact Or.inr ⟨e, .selecting hselect, rfl⟩
  | ok target =>
    cases hread : (s.schemaBytes g).bind textOf with
    | error cause => exact Or.inr ⟨_, .reading hselect hread, rfl⟩
    | ok text =>
      dsimp only [bind, Except.bind]
      cases hparse : Node.ofText text with
      | error cause => exact Or.inr ⟨_, .parsing hselect hread hparse, rfl⟩
      | ok root =>
        dsimp only [Except.mapError, Except.map]
        cases hcompile : target.compile (options g s.settings) (withDefaultTitle g.name root) with
        | error cause => exact Or.inr ⟨_, .compiling hselect hread hparse hcompile, rfl⟩
        | ok code =>
          exact Or.inl ⟨target, root, code, ⟨hselect, ⟨text, hread, hparse⟩, hcompile⟩, rfl⟩

/-- The delivery puts the code in one place, or fails to write it. -/
theorem delivered_or_not_written (s : Surroundings) (g : GenerateArgs) (code : String) :
    (∃ outcome, s.Delivered g code outcome ∧ s.deliver ⟨code, g.output⟩ = .ok outcome) ∨
    ∃ path cause, g.output = some path ∧ s.disk.write path code.toUTF8 = .error cause ∧
      s.deliver ⟨code, g.output⟩ = .error (.writing path cause) := by
  cases hpath : g.output with
  | none => exact Or.inl ⟨_, .output hpath, rfl⟩
  | some path =>
    rw [deliver]
    dsimp only
    cases hwrite : s.disk.write path code.toUTF8 with
    | error cause => exact Or.inr ⟨path, cause, rfl, hwrite, rfl⟩
    | ok disk =>
      obtain ⟨location, hdisk⟩ := Disk.written_of_write hwrite
      exact Or.inl ⟨_, .file hpath hdisk, rfl⟩

/-- **A call of `generate` is all or nothing.**  Either the code of the schema is delivered in one
place, with the exit code 0; or the first stage that fails is reported, with the exit code 1, and
nothing is written to the standard output or to the disk. -/
theorem run_generate {args : List String} {g : GenerateArgs}
    (h : Invocation.parse args = some (.generate g)) (s : Surroundings) :
    (∃ target root code, s.Produces g target root code ∧ s.Delivered g code (s.run args)) ∨
    ∃ e, s.FirstFault g e ∧ s.run args = ⟨1, "", "Error: " ++ e.message ++ "\n", s.disk⟩ := by
  have hrun : s.run args = s.generate g := by rw [run, h]
  rw [hrun, generate]
  rcases s.produces_or_firstFault g with ⟨target, root, code, hproduces, hcode⟩ | ⟨e, hfault, he⟩
  · rw [hcode]
    dsimp only [Except.bind]
    rcases s.delivered_or_not_written g code with
      ⟨outcome, hdelivered, houtcome⟩ | ⟨path, cause, hpath, hwrite, he⟩
    · rw [houtcome]
      exact Or.inl ⟨target, root, code, hproduces, hdelivered⟩
    · rw [he]
      exact Or.inr ⟨_, .writing hproduces hpath hwrite, rfl⟩
  · rw [he]
    exact Or.inr ⟨e, hfault, rfl⟩

/-- A schema without a title. -/
def orderSchema : String :=
  "\x7b\"properties\": \x7b\"id\": \x7b\"type\": \"string\"\x7d\x7d\x7d"

/-- What it is in Go under the name `Order`. -/
def orderCode : String :=
  "package main\n\ntype Order struct \x7b\n\tid string `json:\"id\"`\n\x7d\n"

/-- A schema on the standard input, and nothing else around. -/
def onInput (schema : String) : Surroundings := ⟨⟨[], []⟩, schema.toUTF8, none, none⟩

/-- A directory with the schema in a file, and nothing else around. -/
def orderDirectory : Surroundings :=
  ⟨⟨[(["order.json"], orderSchema.toUTF8)], []⟩, .empty, none, none⟩

/-- The output of this call replaces the schema that it has read. -/
theorem run_generate_of_order :
    ∃ disk, orderDirectory.run
        ["generate", "order.json", "-l", "go", "-o", "order.json", "--name", "Order"]
      = ⟨0, "", "Generated order.json\n", disk⟩ ∧
    disk.read "order.json" = .ok orderCode.toUTF8 := by
  have hargs : Invocation.parse
      ["generate", "order.json", "-l", "go", "-o", "order.json", "--name", "Order"]
        = some (.generate ⟨"order.json", some "go", some "order.json", false, none, some "Order"⟩) := by
    decide +kernel
  have hresult := run_generate hargs orderDirectory
  have hbytes : orderDirectory.disk.read "order.json" = .ok orderSchema.toUTF8 :=
    Except.eq_ok_of_toOption (by decide +kernel)
  have hproject : orderDirectory.text? projectSettingsPath = none := by decide +kernel
  have hroot : ((Node.ofText orderSchema).toOption.bind fun root =>
        (Target.go.compile ⟨false, "main"⟩ (withDefaultTitle (some "Order") root)).toOption)
      = some orderCode := by
    decide +kernel
  obtain ⟨root, hparse, hcompile⟩ := Option.bind_eq_some_iff.mp hroot
  have hproduces : orderDirectory.Produces
      ⟨"order.json", some "go", some "order.json", false, none, some "Order"⟩ .go root
      orderCode := by
    refine ⟨rfl, ⟨orderSchema, ?_, Except.eq_ok_of_toOption hparse⟩, ?_⟩
    · have hpath : orderDirectory.schemaBytes
          ⟨"order.json", some "go", some "order.json", false, none, some "Order"⟩
          = orderDirectory.disk.read "order.json" := rfl
      rw [hpath, hbytes]
      exact textOf_toUTF8 orderSchema
    · rw [settings, hproject]
      exact Except.eq_ok_of_toOption hcompile
  generalize orderDirectory.run _ = outcome at hresult ⊢
  rcases hresult with ⟨target, root', code, hproduces', hdelivered⟩ | ⟨e, hfault, -⟩
  · obtain rfl := hproduces.unique hproduces'
    cases hdelivered with
    | output hpath => cases hpath
    | file hpath hdisk =>
      obtain rfl := Option.some.inj hpath
      exact ⟨_, rfl, hdisk.read⟩
  · -- no stage before the delivery fails, and the file can be written
    obtain ⟨path, cause, hpath, hwrite, -⟩ := hproduces.eq_writing hfault
    obtain rfl := Option.some.inj hpath
    have hwritten :
        (orderDirectory.disk.write "order.json" orderCode.toUTF8).toOption.isSome = true := by
      decide +kernel
    rw [hwrite] at hwritten
    cases hwritten

end Surroundings

end SchemaDecl.Command
