import Storyline.Failing
import Storyline.Text.Quoted

namespace Storyline.Template
open Text

inductive Fault where
  | singleOpening
  | singleClosing
  | openingInName
  | noClosing
  | noConversion
  | noColon
  | unmatchedOpening
  | tooManyDigits
  | emptyAttribute
  | noBracket
  | afterBracket
  | tooDeep
  | unknownConversion (c : Char)
  | position (index : Nat)
  | unknownName (name : String)
  | noAttribute (kind name : String)
  | noKindAttribute (kind name : String)
  | notSubscriptable (kind : String)
  | kindNotSubscriptable (kind : String)
  | layoutOfKind
  | indexRange
  | indexText
  | invalidSpecifier (spec kind : String)
  | unknownCode (c : Char) (kind : String)
  | noPrecision
  | twoSeparators
  | separatorWith (separator code : Char)
  | signInText (space : Bool)
  | zeroInText
  | alternateInText
  | alignmentInText
  | precisionInInteger
  | zeroInInteger
  | signInCharacter
  | alternateInCharacter
  | characterRange
  | hugePrecision
  | number (fault : NumberFault)
  deriving DecidableEq

/-- A character in a message: itself if it is visible and plain, or else its number. -/
def shownCharacter (c : Char) : String :=
  if 32 < c.toNat && c.toNat < 128 then "'" ++ c.toString ++ "'"
  else "'\\x" ++ String.ofList (Nat.toDigits 16 c.toNat) ++ "'"

def Fault.message : Fault → String
  | singleOpening => "Single '\x7b' encountered in format string"
  | singleClosing => "Single '\x7d' encountered in format string"
  | openingInName => "unexpected '\x7b' in field name"
  | noClosing => "expected '\x7d' before end of string"
  | noConversion => "end of string while looking for conversion specifier"
  | noColon => "expected ':' after conversion specifier"
  | unmatchedOpening => "unmatched '\x7b' in format spec"
  | tooManyDigits => "Too many decimal digits in format string"
  | emptyAttribute => "Empty attribute in format string"
  | noBracket => "Missing ']' in format string"
  | afterBracket => "Only '.' or '[' may follow ']' in format field specifier"
  | tooDeep => "Max string recursion exceeded"
  | unknownConversion c =>
    "Unknown conversion specifier " ++
      (if 32 < c.toNat && c.toNat < 127 then c.toString
      else "\\x" ++ String.ofList (Nat.toDigits 16 c.toNat))
  | position index =>
    "Replacement index " ++ toString index ++ " out of range for positional args tuple"
  | unknownName name => quoted name
  | noAttribute kind name => "'" ++ kind ++ "' object has no attribute '" ++ name ++ "'"
  | noKindAttribute kind name => "type object '" ++ kind ++ "' has no attribute '" ++ name ++ "'"
  | notSubscriptable kind => "'" ++ kind ++ "' object is not subscriptable"
  | kindNotSubscriptable kind => "type '" ++ kind ++ "' is not subscriptable"
  | layoutOfKind => "unsupported format string passed to type.__format__"
  | indexRange => "string index out of range"
  | indexText => "string indices must be integers, not 'str'"
  | invalidSpecifier spec kind =>
    "Invalid format specifier '" ++ spec ++ "' for object of type '" ++ kind ++ "'"
  | unknownCode c kind =>
    "Unknown format code " ++ shownCharacter c ++ " for object of type '" ++ kind ++ "'"
  | noPrecision => "Format specifier missing precision"
  | twoSeparators => "Cannot specify both ',' and '_'."
  | separatorWith separator code =>
    "Cannot specify '" ++ separator.toString ++ "' with " ++ shownCharacter code ++ "."
  | signInText space =>
    (if space then "Space" else "Sign") ++ " not allowed in string format specifier"
  | zeroInText => "Negative zero coercion (z) not allowed in string format specifier"
  | alternateInText => "Alternate form (#) not allowed in string format specifier"
  | alignmentInText => "'=' alignment not allowed in string format specifier"
  | precisionInInteger => "Precision not allowed in integer format specifier"
  | zeroInInteger => "Negative zero coercion (z) not allowed in integer format specifier"
  | signInCharacter => "Sign not allowed with integer format specifier 'c'"
  | alternateInCharacter => "Alternate form (#) not allowed with integer format specifier 'c'"
  | characterRange => "%c arg not in range(0x110000)"
  | hugePrecision => "precision too big"
  | number fault => fault.message

instance : Failing Fault :=
  .sorted (fun
    | .position _ | .indexRange => .noIndex
    | .unknownName _ => .noKey
    | .noAttribute .. | .noKindAttribute .. => .noMember
    | .notSubscriptable _ | .kindNotSubscriptable _ | .layoutOfKind | .indexText => .wrongKind
    | .characterRange => .overflow
    | .number f => Failing.sort f
    | _ => .wrongValue) Fault.message

end Storyline.Template
