import SchemaDecl.Proofs.Compile.Preamble

/-!
# The form of declarations

A file is its preamble and one block for each type.  The block is written line by line: first
the lines that open the declaration, then those of each field, and at last those that close it.
In some of the lines something is declared; there the modifier of the language can stand, behind
the indentation.

## Main definitions

* `Line` — a line of a declaration, and the place of the modifier in it.
* `Form`, `Form.lines`, `Form.block` — the lines of a declaration.
* `Target.form`, `Target.modifier`, `Target.preamble` — what a target writes.

## Main results

* `Target.layout_eq` — **a file is its preamble and a block of lines for each declaration**.
-/

namespace SchemaDecl

/-- A line of a declaration. -/
inductive Line
  /-- A line without a place for the modifier. -/
  | plain (text : String)
  /-- A line that declares a type or a field.  The modifier stands behind the indentation. -/
  | declaring (indent rest : String)
  deriving DecidableEq, Repr

/-- The text of a line under a modifier. -/
def Line.text (modifier : String) : Line → String
  | plain text => text
  | declaring indent rest => indent ++ modifier ++ rest

@[simp] theorem Line.text_plain (modifier text : String) : (plain text).text modifier = text := rfl

@[simp] theorem Line.text_declaring (modifier indent rest : String) :
    (declaring indent rest).text modifier = indent ++ modifier ++ rest := rfl

/-- How the declaration of a type is written. -/
structure Form where
  /-- The lines before the fields, given the name of the type. -/
  opening : String → List Line
  /-- The lines of a field. -/
  member : DeclaredField → List Line
  /-- The lines behind the fields. -/
  closing : List Line

namespace Form

/-- The lines of a declaration. -/
def lines (form : Form) (d : Declaration) : List Line :=
  form.opening d.name ++ d.fields.flatMap form.member ++ form.closing

/-- The block of a declaration under a modifier. -/
def block (form : Form) (modifier : String) (d : Declaration) : Block :=
  (form.lines d).map (Line.text modifier)

theorem block_eq (form : Form) (modifier : String) (d : Declaration) :
    form.block modifier d
      = (form.opening d.name).map (Line.text modifier) ++
          d.fields.flatMap (fun f => (form.member f).map (Line.text modifier)) ++
          form.closing.map (Line.text modifier) := by
  rw [block, lines, List.map_append, List.map_append, List.map_flatMap]

end Form

/-! ### The forms of the languages -/

/-- Structs of the C family. -/
def CFamily.form (member : DeclaredField → String) : Form where
  opening name := [.plain ("struct " ++ name ++ " \x7b")]
  member field := [.plain (member field)]
  closing := [.plain "\x7d;"]

/-- Java classes. -/
def Java.form : Form where
  opening name := [.declaring "" ("class " ++ name ++ " \x7b")]
  member field := [.declaring "    " (field.token.type ++ " " ++ field.name ++ ";")]
  closing := [.plain "\x7d"]

/-- Go structs. -/
def Go.form : Form where
  opening name := [.plain ("type " ++ name ++ " struct \x7b")]
  member field := [.plain (member field)]
  closing := [.plain "\x7d"]

/-- Rust structs. -/
def Rust.form : Form where
  opening name :=
    [.plain "#[derive(Debug, Serialize, Deserialize)]",
      .declaring "" ("struct " ++ name ++ " \x7b")]
  member field :=
    [.plain ("    #[serde(rename = \"" ++ field.name ++ "\")]"),
      .declaring "    " (field.ident ++ ": " ++ field.token.type ++ ",")]
  closing := [.plain "\x7d"]

namespace Script

/-- TypeScript interfaces. -/
def interfaceForm : Form where
  opening name := [.declaring "" ("interface " ++ name ++ " \x7b")]
  member field := [.plain ("  " ++ propertyKey field.name ++ ": " ++ field.token.type ++ ";")]
  closing := [.plain "\x7d"]

/-- JavaScript classes. -/
def classForm : Form where
  opening name := [.declaring "" ("class " ++ name ++ " \x7b"), .plain "  constructor() \x7b"]
  member field := [.plain (assignment field)]
  closing := [.plain "  \x7d", .plain "\x7d"]

end Script

namespace Target

/-- How a target writes the declaration of a type. -/
def form (target : Target) : Form :=
  match target.name with
  | "c" => CFamily.form CFamily.cMember
  | "cpp" => CFamily.form CFamily.cppMember
  | "java" => Java.form
  | "go" => Go.form
  | "rust" => Rust.form
  | "typescript" => Script.interfaceForm
  | _ => Script.classForm

/-- The modifier of public declarations, with a space behind it.  The C family has none, and in
Go the names themselves tell. -/
def modifier (target : Target) : String :=
  match target.name with
  | "java" => "public "
  | "rust" => "pub "
  | "typescript" => "export "
  | "javascript" => "export "
  | _ => ""

/-- What stands before the declarations. -/
def preamble (target : Target) (file : SourceFile) : Layout :=
  match target.name with
  | "c" => CFamily.cPreamble file
  | "cpp" => CFamily.cppPreamble file
  | "java" => Java.preamble file
  | "go" => [["package " ++ file.package]]
  | "rust" => [["use serde::\x7bDeserialize, Serialize\x7d;"]]
  | _ => []

/-- The modifier as a file shows it. -/
def shownModifier (target : Target) (isPublic : Bool) : String :=
  if isPublic then target.modifier else ""

/-- **A file is its preamble and a block of lines for each declaration.** -/
theorem layout_eq {target : Target} (htarget : target ∈ Catalogue.builtin) (file : SourceFile) :
    target.layout file
      = target.preamble file ++
          file.declarations.map (target.form.block (target.shownModifier file.isPublic)) := by
  have hblock : ∀ {write : Declaration → Block},
      (∀ d, write d = target.form.block (target.shownModifier file.isPublic) d) →
        file.declarations.map write
          = file.declarations.map (target.form.block (target.shownModifier file.isPublic)) :=
    fun h => List.map_congr_left fun d _ => h d
  rcases mem_builtin.mp htarget with rfl | rfl | rfl | rfl | rfl | rfl | rfl
  · refine congrArg (CFamily.cPreamble file ++ ·) (hblock fun d => ?_)
    simp [Form.block_eq, form, Target.c, CFamily.form, CFamily.struct, List.map_eq_flatMap]
  · refine congrArg (CFamily.cppPreamble file ++ ·) (hblock fun d => ?_)
    simp [Form.block_eq, form, Target.cpp, CFamily.form, CFamily.struct, List.map_eq_flatMap]
  · refine congrArg (Java.preamble file ++ ·) (hblock fun d => ?_)
    simp [Form.block_eq, form, Target.java, Java.form, Java.classDecl, List.map_eq_flatMap,
      shownModifier, modifier, Java.visibility, String.append_assoc]
  · refine congrArg (["package " ++ file.package] :: ·) (hblock fun d => ?_)
    simp [Form.block_eq, form, Target.go, Go.form, Go.struct, List.map_eq_flatMap]
  · refine congrArg (["use serde::\x7bDeserialize, Serialize\x7d;"] :: ·) (hblock fun d => ?_)
    -- a member has two lines here, the first one for its attribute
    have hmember : Rust.member (Rust.visibility file)
        = fun f => (Rust.form.member f).map (Line.text (Rust.visibility file)) :=
      funext fun f => by simp [Rust.member, Rust.form, String.append_assoc]
    rw [Rust.struct, hmember]
    simp [Form.block_eq, form, Target.rust, Rust.form, shownModifier, modifier, Rust.visibility,
      String.append_assoc]
  · refine hblock fun d => ?_
    simp [Form.block_eq, form, Target.typescript, Script.interfaceForm, Script.interface,
      List.map_eq_flatMap, shownModifier, modifier, Script.visibility, String.append_assoc]
  · refine hblock fun d => ?_
    simp [Form.block_eq, form, Target.javascript, Script.classForm, Script.classDecl,
      List.map_eq_flatMap, shownModifier, modifier, Script.visibility, String.append_assoc]

end Target

end SchemaDecl
