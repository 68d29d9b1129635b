import PyDataTask.Python.Builtins

/-!
# Loaded YAML values and the builtin leaf converters

The declarative configuration reaches the parsers of `declarative.py` as the Python value a
YAML loader builds: `None`, a bool, an int, a float, a str, a list, or a dict whose keys are
hashable scalars, its entries in document order. This module gives that tree and what the
builtins the schemas use as leaves do with it: `str`, `int`, and `type` as `parse_bool`'s
error message prints it. A loader also builds dates and timestamps, sets, bytes and ordered
maps from tagged or date-like scalars; those values are not in the tree.
-/

namespace PyDataTask.Declarative

open Python

/-- A Python float, by the two things the leaf converters read of it: a finite float by its
truncation toward zero (what `int` returns) and its `repr` (what `str` returns). -/
inductive PyFloat where
  | finite (whole : Int) (repr : String)
  | inf (negative : Bool)
  | nan
  deriving DecidableEq, Repr

/-- A hashable scalar; the keys of a loaded mapping are scalars. -/
inductive Scalar where
  | null
  | bool (value : Bool)
  | int (value : Int)
  | float (value : PyFloat)
  | str (value : String)
  deriving DecidableEq, Repr

/-- A loaded YAML document. -/
inductive Yaml where
  | scalar (value : Scalar)
  | list (items : List Yaml)
  | dict (entries : List (Scalar × Yaml))
  deriving Repr

def PyFloat.pyRepr : PyFloat → String
  | .finite _ text => text
  | .inf negative => if negative then "-inf" else "inf"
  | .nan => "nan"

/-- `str` of a scalar. -/
def Scalar.pyStr : Scalar → String
  | .null => "None"
  | .bool value => if value then "True" else "False"
  | .int value => toString value
  | .float value => value.pyRepr
  | .str value => value

/-- `repr` of a scalar: its `str`, with a string quoted. Python also escapes quotes,
backslashes and control characters inside the quotes; that is not modelled. -/
def Scalar.pyRepr : Scalar → String
  | .str value => "\x27" ++ value ++ "\x27"
  | scalar => scalar.pyStr

mutual
/-- `repr` of a loaded value. -/
def Yaml.pyRepr : Yaml → String
  | .scalar value => value.pyRepr
  | .list items => "[" ++ Yaml.pyReprItems items ++ "]"
  | .dict entries => "\x7b" ++ Yaml.pyReprEntries entries ++ "\x7d"

def Yaml.pyReprItems : List Yaml → String
  | [] => ""
  | [item] => item.pyRepr
  | item :: rest => item.pyRepr ++ ", " ++ Yaml.pyReprItems rest

def Yaml.pyReprEntries : List (Scalar × Yaml) → String
  | [] => ""
  | [(key, value)] => key.pyRepr ++ ": " ++ value.pyRepr
  | (key, value) :: rest => key.pyRepr ++ ": " ++ value.pyRepr ++ ", " ++ Yaml.pyReprEntries rest
end

/-- The builtin `str`: a container prints as its `repr`. -/
def Yaml.pyStr : Yaml → String
  | .scalar value => value.pyStr
  | thing => thing.pyRepr

/-- `f"{type(thing)}"`. -/
def Yaml.typeRepr : Yaml → String
  | .scalar .null => "<class \x27NoneType\x27>"
  | .scalar (.bool _) => "<class \x27bool\x27>"
  | .scalar (.int _) => "<class \x27int\x27>"
  | .scalar (.float _) => "<class \x27float\x27>"
  | .scalar (.str _) => "<class \x27str\x27>"
  | .list _ => "<class \x27list\x27>"
  | .dict _ => "<class \x27dict\x27>"

/-! ## The builtin `int` -/

/-- The characters `int` strips as blanks: those of `str.isspace` but the separators `\x1c` to
`\x1f`, which its ASCII parser keeps and then rejects. -/
def isIntBlank (c : Char) : Bool :=
  (9 ≤ c.toNat && c.toNat ≤ 13) || c.toNat == 0x20 || c.toNat == 0x85 || c.toNat == 0xa0 ||
    c.toNat == 0x1680 || (0x2000 ≤ c.toNat && c.toNat ≤ 0x200a) ||
    [0x2028, 0x2029, 0x202f, 0x205f, 0x3000].contains c.toNat

/-- The zero of each run of ten decimal digits (Unicode category `Nd`, as Python 3.11's Unicode
14.0 has it). -/
def decimalZeros : List Nat :=
  [0x30, 0x660, 0x6f0, 0x7c0, 0x966, 0x9e6, 0xa66, 0xae6, 0xb66, 0xbe6, 0xc66, 0xce6, 0xd66,
    0xde6, 0xe50, 0xed0, 0xf20, 0x1040, 0x1090, 0x17e0, 0x1810, 0x1946, 0x19d0, 0x1a80, 0x1a90,
    0x1b50, 0x1bb0, 0x1c40, 0x1c50, 0xa620, 0xa8d0, 0xa900, 0xa9d0, 0xa9f0, 0xaa50, 0xabf0,
    0xff10, 0x104a0, 0x10d30, 0x11066, 0x110f0, 0x11136, 0x111d0, 0x112f0, 0x11450, 0x114d0,
    0x11650, 0x116c0, 0x11730, 0x118e0, 0x11950, 0x11c50, 0x11d50, 0x11da0, 0x16a60, 0x16ac0,
    0x16b50, 0x1d7ce, 0x1d7d8, 0x1d7e2, 0x1d7ec, 0x1d7f6, 0x1e140, 0x1e2f0, 0x1e950, 0x1fbf0]

/-- `unicodedata.decimal(c, None)`: a digit of any run reads as its offset from the run's zero. -/
def decimalDigit? (c : Char) : Option Nat :=
  (decimalZeros.find? fun first => first ≤ c.toNat && c.toNat < first + 10).map (c.toNat - ·)

/-- A character of a string as `int` reads it, once `_PyUnicode_TransformDecimalAndSpaceToASCII`
has turned every blank into a space and every decimal digit into its ASCII digit. -/
inductive IntChar where
  | blank
  | digit (value : Nat)
  | underscore
  | plus
  | minus
  | other
  deriving DecidableEq

def IntChar.ofChar (c : Char) : IntChar :=
  if isIntBlank c then .blank
  else match decimalDigit? c with
    | some value => .digit value
    | none => if c = '_' then .underscore else if c = '+' then .plus else if c = '-' then .minus
      else .other

def IntChar.digit? : IntChar → Option Nat
  | .digit value => some value
  | _ => none

/-- A digit or an underscore: what the scan of the number reads. -/
def IntChar.inNumber (c : IntChar) : Bool := c.digit?.isSome || c == .underscore

/-- Digits with single underscores between them. -/
def digitsWithUnderscores : List IntChar → Bool
  | [] => false
  | [c] => c.digit?.isSome
  | c :: .underscore :: rest => c.digit?.isSome && digitsWithUnderscores rest
  | c :: rest => c.digit?.isSome && digitsWithUnderscores rest

def decimalValue (digits : List Nat) : Nat := digits.foldl (fun n d => 10 * n + d) 0

/-- `sys.int_info.default_max_str_digits`. -/
def maxStrDigits : Nat := 4300

/-- `int(text)`, base 10: blanks, an optional sign, digits with single underscores between
them, blanks. `PyLong_FromString` counts the digits of the number before it checks what
follows it, so more than `maxStrDigits` digits raise the limit's `ValueError` whatever comes
after them. -/
def intOfStr (text : String) : Except PyExc Int :=
  let invalid : Except PyExc Int :=
    .error (.valueError ("invalid literal for int() with base 10: " ++ (Scalar.str text).pyRepr))
  let (sign, number) : Int × List IntChar :=
    match (text.toList.map IntChar.ofChar).dropWhile (· == .blank) with
    | .minus :: rest => (-1, rest)
    | .plus :: rest => (1, rest)
    | rest => (1, rest)
  let run := number.takeWhile IntChar.inNumber
  let digits := run.filterMap IntChar.digit?
  if !digitsWithUnderscores run then invalid
  else if maxStrDigits < digits.length then
    .error (.valueError ("Exceeds the limit (4300 digits) for integer string conversion: value has " ++
      toString digits.length ++ " digits; use sys.set_int_max_str_digits() to increase the limit"))
  else if (number.dropWhile IntChar.inNumber).all (· == .blank) then .ok (sign * decimalValue digits)
  else invalid

/-- `int` of a string raises nothing but `ValueError`. -/
theorem intOfStr_error {text : String} {e : PyExc} (raised : intOfStr text = .error e) :
    ∃ message, e = .valueError message := by
  unfold intOfStr at raised
  dsimp only at raised
  split_ifs at raised <;> cases raised <;> exact ⟨_, rfl⟩

example : intOfStr "\u3000-\u0663_\u0664 " = .ok (-34) := by decide

/-- The builtin `int` on a loaded value. -/
def Yaml.pyInt : Yaml → Except PyExc Int
  | .scalar .null => .error .typeError
  | .scalar (.bool value) => .ok (if value then 1 else 0)
  | .scalar (.int value) => .ok value
  | .scalar (.float (.finite whole _)) => .ok whole
  | .scalar (.float (.inf _)) => .error .overflowError
  | .scalar (.float .nan) => .error (.valueError "cannot convert float NaN to integer")
  | .scalar (.str text) => intOfStr text
  | .list _ => .error .typeError
  | .dict _ => .error .typeError

end PyDataTask.Declarative
