import StorageConsole.Json.Text
import StorageConsole.Text.Blank

/-!
Forms. Each form declares its fields and what their values must satisfy; a snapshot holds the
values as they were typed in together with the verdict on them.
-/
namespace StorageConsole

inductive FormName where
  | login
  | register
  | repo
  | payment
  deriving DecidableEq, Repr, Inhabited

/-- What is wrong with a field. -/
inductive FieldError where
  | missing
  | badEmail
  deriving DecidableEq, Repr

def FieldError.message : FieldError → String
  | missing => "required"
  | badEmail => "invalid email address"

inductive Validator where
  | required
  | email
  deriving DecidableEq, Repr

structure Field where
  name : String
  validators : List Validator
  deriving DecidableEq, Repr

/-- The values of a form's fields. -/
abbrev FormValues := Object

namespace Validator

/-- Null and blank texts are missing; every other value is there. -/
def isPresent : Json → Bool
  | .null => false
  | .str text => !Text.isBlankText text
  | _ => true

/-- A text on both sides of one `@`, and on both sides of the first dot behind it. -/
def isEmail (cs : List Char) : Bool :=
  let (account, rest) := cs.span (· != '@')
  match rest with
  | [] => false
  | _ :: domain =>
    let (host, top) := domain.span (· != '.')
    !account.isEmpty && !domain.contains '@' && !host.isEmpty && !top.tail.isEmpty

/-- An address may be left empty, and a value that is no text counts as empty. -/
def checkEmail (value : Json) : Bool :=
  let text := value.asText?.getD ""
  text.isEmpty || isEmail text.toList

def check : Validator → Json → Option FieldError
  | required, value => if isPresent value then none else some .missing
  | email, value => if checkEmail value then none else some .badEmail

end Validator

/-- A form's values, whether they are valid, and whether its errors are shown. -/
structure FormSnapshot where
  valid : Bool
  touched : Bool
  values : FormValues
  deriving DecidableEq, Repr, Inhabited

namespace FormName

def all : List FormName := [login, register, repo, payment]

theorem mem_all (f : FormName) : f ∈ all := by cases f <;> decide

def text : FormName → String
  | login => "authLogin"
  | register => "authRegister"
  | repo => "repo"
  | payment => "payment"

def ofText? (name : String) : Option FormName := all.find? (·.text == name)

/-- What is said of a name that no form has. -/
def unknownMessage (name : String) : String := "unknown form: " ++ name

def fields : FormName → List Field
  | login => [⟨"Name", [.required]⟩, ⟨"Password", [.required]⟩, ⟨"Remember", []⟩]
  | register =>
    [⟨"Email", [.required, .email]⟩, ⟨"Name", [.required]⟩, ⟨"Password", [.required]⟩]
  | repo => [⟨"Name", [.required]⟩]
  | payment => [⟨"Plan", [.required]⟩]

end FormName

/-- The first validator's complaint; an absent field is null. -/
def Field.error? (field : Field) (values : FormValues) : Option FieldError :=
  field.validators.findSome? (·.check ((values.get? field.name).getD .null))

namespace FormName

/-- The fields that fail, in the order of their declaration. -/
def errors (form : FormName) (values : FormValues) : List (String × FieldError) :=
  form.fields.filterMap fun field => (field.error? values).map (field.name, ·)

def snapshot (form : FormName) (values : FormValues) : FormSnapshot :=
  ⟨(form.errors values).isEmpty, false, values⟩

end FormName

namespace FormValues

/-- A field as text: null is empty, and a value that is no text is written as JSON. -/
def typed (values : FormValues) (name : String) : String :=
  match values.get? name with
  | some (.str text) => text
  | some .null | none => ""
  | some value => value.compact

/-- A field's text; any other value counts as empty. -/
def textOnly (values : FormValues) (name : String) : String :=
  ((values.get? name).bind Json.asText?).getD ""

/-- A ticked box: true, or one of the texts that stand for it. -/
def isTicked (values : FormValues) (name : String) : Bool :=
  match values.get? name with
  | some (.bool value) => value
  | some (.str text) => ["true", "on", "yes", "y"].contains text
  | _ => false

end FormValues

end StorageConsole
