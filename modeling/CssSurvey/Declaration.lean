/-
Declarations `property: value` and the blocks that hold them. Reading never fails: a declaration
that is not well formed keeps what could be read of it and is marked invalid.
-/
import CssSurvey.Text.Blank
import CssSurvey.Text.Caseless
import CssSurvey.TopLevel

namespace CssSurvey

/-- A single `property: value` statement. -/
structure Declaration where
  property : Text
  value : Text
  isValid : Bool
deriving DecidableEq

namespace Declaration

/-- Reads one declaration. It is valid when there is a colon, neither side of it is blank up to the
first top-level `;` after the colon, and all parts between such `;` behind it are blank. Without a colon
the whole text, less the semicolons at its end, is the property. -/
def parse (text : Text) : Declaration :=
  let text := text.trim
  match text.dropWhile (· ≠ ':') with
  | [] => ⟨Text.trim (text.dropEndWhile (· = ';')), [], false⟩
  | _ :: rest =>
    let property := Text.trim (text.takeWhile (· ≠ ':'))
    let (first, others) := splitFrom ';' .top rest
    let value := first.trim
    ⟨property, value, !property.isEmpty && !value.isEmpty && others.all Text.isBlank⟩

/-- The written form, without a semicolon. -/
def render (d : Declaration) : Text := d.property ++ [':', ' '] ++ d.value

end Declaration

/-- The declarations of a block in order, and the text between its braces. -/
structure DeclarationBlock where
  declarations : List Declaration
  text : Text
deriving DecidableEq

namespace DeclarationBlock

/-- What stands between the first opening brace and the last closing brace after it: the whole text
when there is no opening brace, everything after it when none closes. -/
def bodyOf (text : Text) : Text :=
  match text.dropWhile (· ≠ '{') with
  | [] => text
  | _ :: inner =>
    match inner.reverse.dropWhile (· ≠ '}') with
    | [] => inner
    | _ :: body => body.reverse

/-- The statements of a body: its parts between top-level semicolons that are not blank. -/
def statements (body : Text) : List Text := (splitTop ';' body).filter (!·.isBlank)

/-- Reads a block, with or without its braces. -/
def parse (text : Text) : DeclarationBlock :=
  let body := bodyOf text
  ⟨(statements body).map Declaration.parse, body⟩

/-- The last declaration of a property, which is the one that wins. -/
def get? (block : DeclarationBlock) (property : Text) : Option Declaration :=
  block.declarations.reverse.find? (Text.sameName ·.property property)

/-- Whether a block declares a property. -/
def has (block : DeclarationBlock) (property : Text) : Bool := (block.get? property).isSome

end DeclarationBlock

end CssSurvey
