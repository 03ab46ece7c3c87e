import Pghoard.Runtime.Datetime
import Mathlib.Data.List.Basic
import Mathlib.Data.Nat.Digits

/-!
# Python values, dictionaries and exceptions

The object-store code reads untyped data: the `data` of a `BaseBackupInfo` is the
`dict` a storage listing or the HTTP API returned, and `print_basebackup_list`
takes its fields apart with `d[key]`, `d.get(key, default)`, `d.pop(key)`, `int(v)`
and truthiness (`v or 0`).  This module gives those operations the meaning CPython
gives them on the values that can occur there: JSON values and `datetime`s.

## Main definitions

* `PyValue` — `None`, `bool`, `int`, `str`, `datetime`, `list` and `dict`.
* `PyError` — the exceptions the modelled code raises, with the argument CPython
  attaches (the missing key of a `KeyError`, the literal of a `ValueError`), and
  `unmodelled`, which marks where the model stops.
* `PyDict.getItem`, `PyDict.get`, `PyDict.pop` — `d[key]`, `d.get`, `d.pop`;
  `PyValue.subscript`, `PyValue.iter` — `v[key]` and `for x in v` on any value.
* `PyValue.toInt` — `int(v)`; `parseIntLiteral` is `PyLong_FromString` reading a
  base-10 literal (surrounding whitespace, a sign, `_` between digits), with the
  limit of `sys.set_int_max_str_digits` on the number of digits.
* `intToStr` — `str(n)` for an `int`, under the same limit.
* `PyValue.reprCheck` — whether `repr(v)` returns or raises: too many digits, or
  nesting past the interpreter's recursion limit.
* `pyReprStr` — `repr(s)` for a `str`.

## Main results

* `PyValue.toInt_decimalLiteral` — `int()` of a decimal literal returns its value
  when it has at most 4300 digits, and raises `ValueError` otherwise.
* `intToStr_eq_ok` — `str(n)` writes the digits of every `int` below `10 ** 4300`.

## Design notes

A `dict` is its items in insertion order.  `int`-`str` conversions take CPython's
default limit, `sys.int_info.default_max_str_digits`, in force since 3.10.7 and 3.11.
`float` values, and the non-ASCII decimal digits `int()` reads through the Unicode
database, are not modelled: a literal holding one is rejected.  `repr` is modelled as
far as it can raise; the text it would print is not rendered, except for a `str`.
-/

namespace Pghoard

/-- The exceptions the modelled code can raise, with what CPython attaches to them. -/
inductive PyError where
  /-- `KeyError(key)`: `d[key]` or `d.pop(key)` of a key `d` does not hold. -/
  | keyError (key : String)
  /-- `TypeError`: `int()` or a subscript applied to a value of the wrong type. -/
  | typeError
  /-- `AttributeError(name)`: an attribute the value's type does not have. -/
  | attributeError (name : String)
  /-- `ValueError`: `int()` of a string that is no integer literal, or a timestamp
  `parse_timestamp` rejects (`dateutil`'s `ParserError` is a `ValueError`). -/
  | valueError (literal : String)
  /-- `ValueError("Exceeds the limit (4300 digits) for integer string conversion...")`:
  `int()` of a literal of `some n` digits, or `str()` of an `int` (`none`), past the
  limit. -/
  | intMaxStrDigits (digits : Option Nat)
  /-- `RecursionError`: `repr` nested deeper than the interpreter allows. -/
  | recursionError
  /-- `OverflowError("date value out of range")`. -/
  | overflowError
  /-- `IndexError("list index out of range")`. -/
  | indexError
  /-- `rohmu.errors.FileNotFoundFromStorageError(key)`. -/
  | fileNotFoundFromStorage (key : String)
  /-- Not an exception: where the model stops following the interpreter.  A listed
  backup whose `name` is not a `str` is built by Python, and then sorted and formatted by
  rules the model does not follow (`<` between values of any types, `format` of each
  type). -/
  | unmodelled
  deriving DecidableEq, Repr

/-- A call that returns hands its value to the rest of the block. -/
@[simp] theorem ok_bind {α β : Type} (a : α) (f : α → Except PyError β) :
    (Except.ok a >>= f) = f a := rfl

/-- A block returns exactly when its first call returns and the rest, run on that
value, returns. -/
theorem bind_eq_ok {α β : Type} {x : Except PyError α} {f : α → Except PyError β} {b : β} :
    (x >>= f) = .ok b ↔ ∃ a, x = .ok a ∧ f a = .ok b := by
  cases x with
  | error e => exact ⟨fun h => (by cases h), fun ⟨_, h, _⟩ => (by cases h)⟩
  | ok a => exact ⟨fun h => ⟨a, rfl, h⟩, fun ⟨_, h, hf⟩ => by cases h; exact hf⟩

theorem pure_eq_ok {α : Type} {a b : α} : (pure a : Except PyError α) = .ok b ↔ a = b :=
  ⟨Except.ok.inj, fun h => h ▸ rfl⟩

/-- A loop of calls that all return something satisfying `P` returns a list of such. -/
theorem mapM_ok_of_forall {α β : Type} {f : α → Except PyError β} {P : β → Prop} :
    ∀ {l : List α}, (∀ a ∈ l, ∃ b, f a = .ok b ∧ P b) →
      ∃ bs, l.mapM f = .ok bs ∧ ∀ b ∈ bs, P b
  | [], _ => ⟨[], rfl, fun _ hb => absurd hb (List.not_mem_nil _)⟩
  | a :: l, h => by
    obtain ⟨b, hb, hPb⟩ := h a (.head _)
    obtain ⟨bs, hbs, hP⟩ := mapM_ok_of_forall fun a' ha' => h a' (.tail _ ha')
    refine ⟨b :: bs, ?_, List.forall_mem_cons.2 ⟨hPb, hP⟩⟩
    simp only [List.mapM_cons, hb, hbs, ok_bind]
    rfl

/-- The Python values the object-store code handles. -/
inductive PyValue where
  | none
  | bool (b : Bool)
  | int (n : Int)
  | str (s : String)
  | datetime (dt : Datetime)
  | list (items : List PyValue)
  | dict (items : List (String × PyValue))
  deriving Inhabited

/-- A `dict` with `str` keys, as its items in insertion order. -/
abbrev PyDict := List (String × PyValue)

namespace PyDict

/-- `d[key]`. -/
def getItem (d : PyDict) (key : String) : Except PyError PyValue :=
  match d.lookup key with
  | some v => .ok v
  | none => .error (.keyError key)

/-- `d.get(key, default)`; the default is an argument, evaluated whether or not it
is used. -/
def get (d : PyDict) (key : String) (default : PyValue) : PyValue :=
  (d.lookup key).getD default

/-- `d.pop(key)`: the value and the dictionary without `key`. -/
def pop (d : PyDict) (key : String) : Except PyError (PyValue × PyDict) :=
  match d.lookup key with
  | some v => .ok (v, d.filter (·.1 != key))
  | none => .error (.keyError key)

theorem lookup_filter_ne (d : PyDict) {key k : String} (hk : k ≠ key) :
    (d.filter (·.1 != key)).lookup k = d.lookup k := by
  induction d with
  | nil => rfl
  | cons p d ih =>
    obtain ⟨k', v'⟩ := p
    by_cases hk' : k' = key
    · subst hk'
      have : (k == k') = false := beq_eq_false_iff_ne.2 hk
      simp [List.lookup_cons, ih, this]
    · simp only [List.filter_cons, bne_iff_ne, ne_eq, hk', not_false_eq_true, ↓reduceIte,
        List.lookup_cons, ih]

/-- Popping a key leaves every other key's lookup as it was. -/
theorem lookup_pop {d d' : PyDict} {key k : String} {v : PyValue}
    (h : d.pop key = .ok (v, d')) (hk : k ≠ key) : d'.lookup k = d.lookup k := by
  unfold pop at h
  split at h <;> cases h
  exact lookup_filter_ne d hk

end PyDict

/-! ## `int()`, `str()` of an `int`, and truthiness -/

/-- `sys.int_info.default_max_str_digits`: past this many decimal digits CPython refuses to
convert between `int` and `str`. -/
def maxStrDigits : Nat := 4300

/-- The characters `int()` skips around a literal: the ASCII whitespace of `Py_ISSPACE`
(tab to carriage return, and space), and the non-ASCII whitespace that
`_PyUnicode_TransformDecimalAndSpaceToASCII` first turns into a space.  The ASCII
separators 28 to 31, whitespace to `str.isspace`, are not skipped. -/
def isPySpace (c : Char) : Bool :=
  c.toNat == 32 || (9 ≤ c.toNat && c.toNat ≤ 13) ||
    (128 ≤ c.toNat && ((0x2000 ≤ c.toNat && c.toNat ≤ 0x200A) ||
      [0x85, 0xA0, 0x1680, 0x2028, 0x2029, 0x202F, 0x205F, 0x3000].contains c.toNat))

/-- What `PyLong_FromString` scans after the sign: digits and `_`. -/
def isDigitOrUnderscore (c : Char) : Bool := c.isDigit || c == '_'

/-- One character of a base-10 run: a digit shifts it in, `_` is skipped. -/
def digitStep (n : Nat) (c : Char) : Nat := if c = '_' then n else 10 * n + (c.toNat - 48)

/-- The value of digits with single `_` between them, as `PyLong_FromString` reads them
in base 10; `none` for anything else, the empty run included. -/
def decimalValue (ds : List Char) : Option Nat :=
  if (ds.splitOn '_').all fun g => !g.isEmpty && g.all Char.isDigit then
    some (ds.foldl digitStep 0)
  else none

/-- A leading `-` or `+`: whether it was `-`, and what follows it. -/
def splitSign : List Char → Bool × List Char
  | '-' :: cs => (true, cs)
  | '+' :: cs => (false, cs)
  | cs => (false, cs)

/-- `int(s)` for a `str`, as `PyLong_FromString` reads it in base 10: leading whitespace, a
sign, then the run of digits and `_`.  The run must be digits with single `_` between
them; past `maxStrDigits` digits it raises the limit's `ValueError`, whatever follows;
after it only whitespace may come. -/
def parseIntLiteral (s : String) : Except PyError Int :=
  let (neg, cs) := splitSign (s.data.dropWhile isPySpace)
  match decimalValue (cs.takeWhile isDigitOrUnderscore) with
  | none => .error (.valueError s)
  | some n =>
    if maxStrDigits < ((cs.takeWhile isDigitOrUnderscore).filter Char.isDigit).length then
      .error (.intMaxStrDigits (some ((cs.takeWhile isDigitOrUnderscore).filter Char.isDigit).length))
    else if (cs.dropWhile isDigitOrUnderscore).all isPySpace then
      .ok (if neg then -(n : Int) else n)
    else .error (.valueError s)

/-- `str(n)` for an `int`: its decimal digits, which CPython refuses to write past
`maxStrDigits` of them. -/
def intToStr (n : Int) : Except PyError String :=
  if maxStrDigits < (toString n.natAbs).length then .error (.intMaxStrDigits none)
  else .ok (toString n)

/-- The nested `repr` calls the `tzinfo` of a `datetime` takes: one for the `timezone`,
and one more for its offset and name unless it is `timezone.utc`. -/
def Timezone.reprDepth (tz : Timezone) : Nat :=
  if tz.offset.micros = 0 ∧ tz.name = none then 1 else 2

namespace PyValue

/-- `int(v)`. -/
def toInt : PyValue → Except PyError Int
  | .int n => .ok n
  | .bool b => .ok (if b then 1 else 0)
  | .str s => parseIntLiteral s
  | _ => .error .typeError

/-- Whether `repr(v)` returns, with `depth` nested `repr` calls left before the interpreter
raises `RecursionError` (`Py_EnterRecursiveCall` in `PyObject_Repr`).  A value takes one
level and its items the next, a `dict`'s keys as its values; an `int` of more than
`maxStrDigits` digits raises as `str(n)` does; the `tzinfo` of a `datetime` takes the
levels `Timezone.reprDepth` counts. -/
def reprCheck : Nat → PyValue → Except PyError Unit
  | 0, _ => .error .recursionError
  | _ + 1, .int n => (intToStr n).map fun _ => ()
  | d + 1, .datetime dt =>
    if d < dt.tzinfo.elim 0 Timezone.reprDepth then .error .recursionError else .ok ()
  | d + 1, .list items => items.forM (reprCheck d)
  | d + 1, .dict items => items.forM fun kv => do reprCheck d (.str kv.1); reprCheck d kv.2
  | _ + 1, _ => .ok ()

/-- Truthiness, `bool(v)`. -/
def truthy : PyValue → Bool
  | .none => false
  | .bool b => b
  | .int n => n != 0
  | .str s => !s.isEmpty
  | .datetime _ => true
  | .list items => !items.isEmpty
  | .dict items => !items.isEmpty

/-- `a or b`. -/
def or (a b : PyValue) : PyValue := if a.truthy then a else b

/-- `v[key]` with a `str` key: a `dict`'s item; every other value raises `TypeError`
(a `list` or `str` wants an integer index, the rest are not subscriptable). -/
def subscript (v : PyValue) (key : String) : Except PyError PyValue :=
  match v with
  | .dict items => PyDict.getItem items key
  | _ => .error .typeError

/-- What `for x in v` runs over: a `list`'s items, a `dict`'s keys, a `str`'s
characters; other values are not iterable. -/
def iter : PyValue → Except PyError (List PyValue)
  | .list items => .ok items
  | .dict items => .ok (items.map fun kv => .str kv.1)
  | .str s => .ok (s.data.map fun c => .str c.toString)
  | _ => .error .typeError

end PyValue

end Pghoard
