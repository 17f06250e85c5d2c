import Autotools.Server.Uri.Host

/-! What a client is told of a value that it should not have sent. -/

namespace Autotools

/-- What is wrong with a value that does not have the shape it should have. -/
inductive Complaint where
  | invalidType
  | invalidValue
  | missingField (name : String)
  | tooShort (given : Nat) (title : String) (needed : Nat)
  | tooLong (given : Nat)
  | unread (given taken : Nat)
  | noAlternative (title : String)
  | unknownWord (given : String) (known : List String)
  | badUri (cause : Uri.Fault)
deriving DecidableEq, Inhabited, Repr

namespace Complaint

def elements (n : Nat) : String := toString n ++ (if n = 1 then " element" else " elements")

def ticked (s : String) : String := "`" ++ s ++ "`"

/-- The words of which one was expected. -/
def alternatives : List String → String
  | [a] => ticked a
  | [a, b] => ticked a ++ " or " ++ ticked b
  | words => "one of " ++ ", ".intercalate (words.map ticked)

/-- The wording of a complaint. -/
def message : Complaint → String
  | .invalidType => "invalid type"
  | .invalidValue => "invalid value"
  | .missingField name => "missing field " ++ ticked name
  | .tooShort given title needed =>
    "invalid length " ++ toString given ++ ", expected struct " ++ title ++ " with "
      ++ elements needed
  | .tooLong given => "invalid length " ++ toString given ++ ", expected fewer elements in array"
  | .unread given taken =>
    "invalid length " ++ toString given ++ ", expected " ++ elements taken ++ " in sequence"
  | .noAlternative title => "data did not match any variant of untagged enum " ++ title
  | .unknownWord given known =>
    "unknown variant " ++ ticked given ++ ", expected " ++ alternatives known
  | .badUri cause => cause.message

end Complaint

end Autotools
