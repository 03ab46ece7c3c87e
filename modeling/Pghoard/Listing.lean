import Pghoard.BackupInfo
import Mathlib.Data.String.Basic
import Mathlib.Data.List.Sort

/-!
# Listing base backups

`print_basebackup_list` prints a table of backups: a caption, a header, and one row
per backup in ascending name order, each with the backup's name, its stored size
(`total-size-enc`, else the listing's `size`), its original size and its start
time in UTC; a verbose listing prints each backup's remaining metadata under its row.

The metadata the rows are read from is untyped, and every step of a row can raise:
a missing key, a value of the wrong type, a timestamp `parse_timestamp` rejects, a
start time whose conversion to UTC leaves `datetime`'s range, a size `int()` rejects or
whose digits pass CPython's limit on `int`-`str` conversion.  The verbose
`print("    metadata:", meta)` raises in turn when `repr(meta)` does.  The model keeps
each of these paths, in the order the code evaluates them.

## Main definitions

* `basebackupRow` — one row of the table and the metadata printed under it, or the
  exception computing them raises.
* `rowLines` — what one iteration prints once its row is computed.
* `printBasebackupList` — the lines printed, and the exception that stopped the
  loop, if one did.
* `Listable`, `MetadataPrints` — the conditions under which a backup's row, and its
  metadata line, are printed.

## Main results

* `printBasebackupList_of_listable` — on listable backups the table is printed in
  full: one row per backup, in the order of a stable sort by name, with the size
  column `total-size-enc // 2**20 MB` when the metadata has it and `size // 2**20 MB`
  otherwise.
* `toNaiveUtc_isOk_iff` — the conversion of a start time to UTC succeeds exactly when
  its UTC instant is a `datetime`; `printBasebackupList_overflow` is a start time one
  hour east of UTC at `datetime.min`, which stops the listing with `OverflowError`.
* `basebackupRow_intMaxStrDigits` — a `total-size-enc` of more than 4300 digits makes
  the row raise the `ValueError` of CPython's limit, however well-formed the rest.
* `printBasebackupList_keyError_size` — `basebackup.data["size"]` is the default
  argument of `meta.get("total-size-enc", ...)`, evaluated before the call: backups
  whose listing entries have no `size` raise `KeyError('size')`, even when their
  metadata has `total-size-enc`.
* `printBasebackupList_perm` — when the backups' names are distinct, what is printed
  does not depend on the order the listing returned them in.
* `printBasebackupList_quiet` — `verbose=False` prints at least the verbose table's
  lines without its metadata, and exactly those, raising what it raises, unless a
  verbose `repr(meta)` raised.

## Design notes

`parse_timestamp` (rohmu's, over `dateutil`) is a parameter: which strings it accepts
is its own business, and the results above hold for every such function.  So is
`reprDepth`, the number of nested `repr` calls the interpreter still allows when a
verbose listing prints a backup's metadata, which depends on the interpreter's version
and on the depth of the call.  A printed line is its text; the metadata line keeps
the metadata it prints, whose `repr` is checked (`PyValue.reprCheck`) but not
rendered.
-/

namespace Pghoard

/-! ## Formatting -/

/-- `"{:w}".format(s)` for a `str`: left-aligned, padded with spaces to width `w`. -/
def ljust (s : String) (w : Nat) : String := s.pushn ' ' (w - s.length)

/-- `"{:>w}".format(s)`: right-aligned, padded with spaces to width `w`. -/
def rjust (s : String) (w : Nat) : String := "".pushn ' ' (w - s.length) ++ s

/-- `fmt = "{name:40}  {size:>11}  {orig_size:>11}  {time:20}".format`. -/
def fmt (name size origSize time : String) : String :=
  ljust name 40 ++ "  " ++ rjust size 11 ++ "  " ++ rjust origSize 11 ++ "  " ++ ljust time 20

/-- `"{} MB".format(n // (1024 ** 2))`: `str` of the quotient raises past 4300 digits. -/
def megabytes (n : Int) : Except PyError String :=
  (intToStr (n.fdiv 1048576)).map (· ++ " MB")

/-- What a `print` call writes. -/
inductive Printed where
  /-- A line of text. -/
  | line (text : String)
  /-- The verbose `print("    metadata:", meta)`, whose `repr(meta)` returned. -/
  | metadata (meta : PyDict)
  /-- What a `print` call wrote, without its newline, before converting one of its
  arguments raised. -/
  | unfinished (text : String)

/-- The caption and the two header lines. -/
def header (caption : String) : List Printed :=
  [.line (caption ++ " \n"), .line (fmt "Basebackup" "Backup size" "Orig size" "Start time"),
    .line (fmt ("".pushn '-' 40) ("".pushn '-' 11) ("".pushn '-' 11) ("".pushn '-' 20))]

/-- `basebackup.data["metadata"].copy()`: a `dict`.  A `list` copies too, but its
`pop("start-time")` then raises `TypeError`; anything else has no `copy`. -/
def copyMetadata : PyValue → Except PyError PyDict
  | .dict items => .ok items
  | .list _ => .error .typeError
  | _ => .error (.attributeError "copy")

/-- The start time as a `datetime`: a `str` goes through `dates.parse_timestamp`,
whose rejection of the string is a `ValueError`; a value that is neither has no
`tzinfo`. -/
def startTime (parseTimestamp : String → Option Datetime) : PyValue → Except PyError Datetime
  | .str s =>
    match parseTimestamp s with
    | some dt => .ok dt
    | none => .error (.valueError s)
  | .datetime dt => .ok dt
  | _ => .error (.attributeError "tzinfo")

/-- `if lm.tzinfo: lm = lm.astimezone(datetime.timezone.utc).replace(tzinfo=None)`.
`astimezone` returns `lm` itself when its `tzinfo` is `timezone.utc` already, and
otherwise subtracts the offset, which raises `OverflowError` out of range. -/
def toNaiveUtc (lm : Datetime) : Except PyError Datetime :=
  match lm.tzinfo with
  | none => .ok lm
  | some tz =>
    if tz.offset.micros = 0 ∧ tz.name = none then .ok { lm with tzinfo := none }
    else
      match lm.subOffset tz.offset with
      | some utc => .ok { utc with tzinfo := none }
      | none => .error .overflowError

/-- The size columns: `int(meta.get("total-size-enc", basebackup.data["size"]))` in
megabytes, then `int(meta.get("total-size-plain", meta.get("original-file-size")) or 0)`
in megabytes, or `"n/a"` when it is zero. -/
def sizeColumns (data meta : PyDict) : Except PyError (String × String) := do
  let sizeStr ← megabytes (← (meta.get "total-size-enc" (← data.getItem "size")).toInt)
  let origSize ←
    ((meta.get "total-size-plain" (meta.get "original-file-size" .none)).or (.int 0)).toInt
  let origSizeStr ← if origSize ≠ 0 then megabytes origSize else pure "n/a"
  pure (sizeStr, origSizeStr)

/-- One iteration of the loop up to its `print`s: the row, and the metadata a verbose
listing prints under it. -/
def basebackupRow (parseTimestamp : String → Option Datetime) (b : BaseBackupInfo) :
    Except PyError (String × PyDict) := do
  let meta ← copyMetadata (← b.data.getItem "metadata")
  let (lm, meta) ← meta.pop "start-time"
  let lm ← toNaiveUtc (← startTime parseTimestamp lm)
  let lmStr := (lm.isoformat 'T').take 19 ++ "Z"
  let (sizeStr, origSizeStr) ← sizeColumns b.data meta
  pure (fmt b.name sizeStr origSizeStr lmStr, meta)

/-! ## The table -/

/-- What one iteration prints once its row is computed: `print(fmt(...))`, then, in a
verbose listing, `print("    metadata:", meta)`, which has written its label and a
space when `str(meta)` raises; and the exception, if one was raised. -/
def rowLines (reprDepth : Nat) (verbose : Bool) (row : String) (meta : PyDict) :
    List Printed × Option PyError :=
  if verbose then
    match (PyValue.dict meta).reprCheck reprDepth with
    | .ok () => ([.line row, .metadata meta], none)
    | .error e => ([.line row, .unfinished "    metadata: "], some e)
  else ([.line row], none)

/-- The loop over the sorted backups: what it printed, and the exception that ended
it, if one did. -/
def printRows (parseTimestamp : String → Option Datetime) (reprDepth : Nat) (verbose : Bool) :
    List BaseBackupInfo → List Printed × Option PyError
  | [] => ([], none)
  | b :: bs =>
    match basebackupRow parseTimestamp b with
    | .error e => ([], some e)
    | .ok (row, meta) =>
      match rowLines reprDepth verbose row meta with
      | (lines, some e) => (lines, some e)
      | (lines, none) =>
        (lines ++ (printRows parseTimestamp reprDepth verbose bs).1,
          (printRows parseTimestamp reprDepth verbose bs).2)

/-- `sorted(basebackups, key=lambda b: b.name)`: a stable sort by name. -/
def sortByName (basebackups : List BaseBackupInfo) : List BaseBackupInfo :=
  basebackups.mergeSort fun a b => decide (a.name ≤ b.name)

/-- `print_basebackup_list(basebackups, caption=caption, verbose=verbose)`; the source's
defaults are `caption="Available basebackups"` and `verbose=True`. -/
def printBasebackupList (parseTimestamp : String → Option Datetime) (reprDepth : Nat)
    (basebackups : List BaseBackupInfo) (caption : String) (verbose : Bool) :
    List Printed × Option PyError :=
  (header caption ++ (printRows parseTimestamp reprDepth verbose (sortByName basebackups)).1,
    (printRows parseTimestamp reprDepth verbose (sortByName basebackups)).2)

/-! ## When a row is printed -/

theorem sortByName_perm (basebackups : List BaseBackupInfo) :
    (sortByName basebackups).Perm basebackups :=
  List.mergeSort_perm _ _

theorem nameLe_trans (a b c : BaseBackupInfo) : decide (a.name ≤ b.name) = true →
    decide (b.name ≤ c.name) = true → decide (a.name ≤ c.name) = true := by
  simp only [decide_eq_true_eq]
  exact le_trans

theorem nameLe_total (a b : BaseBackupInfo) :
    (decide (a.name ≤ b.name) || decide (b.name ≤ a.name)) := by
  simp only [Bool.or_eq_true, decide_eq_true_eq]
  exact le_total a.name b.name

/-- `sorted` by name returns the backups in ascending name order. -/
theorem sortByName_pairwise (basebackups : List BaseBackupInfo) :
    (sortByName basebackups).Pairwise fun a b => a.name ≤ b.name :=
  (List.sorted_mergeSort nameLe_trans nameLe_total basebackups).imp of_decide_eq_true

/-- The metadata of a backup started at `testPreserveUntil`, 2 MiB once encrypted. -/
def testMetadata : PyDict :=
  [("start-time", .datetime testPreserveUntil), ("total-size-enc", .int 2097152)]

/-- Two backups, given in descending name order: one whose start time is a string,
one whose metadata is `testMetadata`. -/
def twoBackups : List BaseBackupInfo :=
  [⟨"site_name/basebackup/2022_12_11", "site_name",
      [("size", .int 3145728), ("metadata", .dict [("start-time", .str "2022-12-11")])]⟩,
    ⟨"site_name/basebackup/2022_12_10", "site_name",
      [("size", .int 3145728), ("metadata", .dict testMetadata)]⟩]

/-- Sorting by name forgets the order of backups whose names are distinct. -/
theorem sortByName_eq_of_perm {l₁ l₂ : List BaseBackupInfo} (hp : l₁.Perm l₂)
    (hnames : (l₁.map BaseBackupInfo.name).Nodup) : sortByName l₁ = sortByName l₂ := by
  have hsorted : ∀ l, l.Perm l₁ → (sortByName l).Sorted fun a b => a.name < b.name := by
    intro l hl
    have hperm := (sortByName_perm l).trans hl
    have hne : (sortByName l).Pairwise fun a b => a.name ≠ b.name :=
      List.pairwise_map.1 ((hperm.map BaseBackupInfo.name).nodup_iff.2 hnames)
    exact ((sortByName_pairwise l).and hne).imp fun h => lt_of_le_of_ne h.1 h.2
  exact @List.eq_of_perm_of_sorted _ _ ⟨fun _ _ h h' => absurd h' (lt_asymm h)⟩ _ _
    ((sortByName_perm l₁).trans (hp.trans (sortByName_perm l₂).symm))
    (hsorted l₁ (List.Perm.refl _)) (hsorted l₂ hp.symm)

/-- **The table does not depend on the order of the listing**: two lists of the same
backups, with distinct names, print the same lines and raise the same exception, in
whatever order `list_basebackups` returned them. -/
theorem printBasebackupList_perm (parseTimestamp : String → Option Datetime) (reprDepth : Nat)
    {l₁ l₂ : List BaseBackupInfo} (hp : l₁.Perm l₂)
    (hnames : (l₁.map BaseBackupInfo.name).Nodup) (caption : String) (verbose : Bool) :
    printBasebackupList parseTimestamp reprDepth l₁ caption verbose =
      printBasebackupList parseTimestamp reprDepth l₂ caption verbose := by
  rw [printBasebackupList, printBasebackupList, sortByName_eq_of_perm hp hnames]

theorem printBasebackupList_twoBackups_reverse :
    twoBackups.reverse.Perm twoBackups ∧ (twoBackups.reverse.map BaseBackupInfo.name).Nodup ∧
      printBasebackupList (fun _ => none) 2 twoBackups.reverse "Available basebackups" true =
        printBasebackupList (fun _ => none) 2 twoBackups "Available basebackups" true :=
  have hp := List.reverse_perm twoBackups
  have hnames : (twoBackups.reverse.map BaseBackupInfo.name).Nodup := by decide
  ⟨hp, hnames, printBasebackupList_perm _ _ hp hnames _ _⟩

/-- Whether a printed line is a line of text, rather than metadata a verbose listing
prints, whole or cut short. -/
def Printed.isLine : Printed → Bool
  | .line _ => true
  | _ => false

/-- What the label of a metadata line that raised leaves printed. -/
def metadataLabel : Printed := .unfinished "    metadata: "

/-- The quiet loop prints at least the verbose loop's text lines, and, unless a verbose
`repr(meta)` raised, exactly those, raising what the verbose loop raises. -/
theorem printRows_quiet (parseTimestamp : String → Option Datetime) (reprDepth : Nat) :
    ∀ bs : List BaseBackupInfo,
      (printRows parseTimestamp reprDepth true bs).1.filter Printed.isLine <+:
          (printRows parseTimestamp reprDepth false bs).1 ∧
        (metadataLabel ∉ (printRows parseTimestamp reprDepth true bs).1 →
          printRows parseTimestamp reprDepth false bs =
            ((printRows parseTimestamp reprDepth true bs).1.filter Printed.isLine,
              (printRows parseTimestamp reprDepth true bs).2))
  | [] => ⟨List.prefix_refl _, fun _ => rfl⟩
  | b :: bs => by
    obtain ⟨ihp, ihe⟩ := printRows_quiet parseTimestamp reprDepth bs
    cases hrow : basebackupRow parseTimestamp b with
    | error e =>
      simp only [printRows, hrow, List.filter_nil]
      exact ⟨List.prefix_refl _, fun _ => trivial⟩
    | ok r =>
      obtain ⟨row, meta⟩ := r
      cases hrepr : (PyValue.dict meta).reprCheck reprDepth with
      | error e =>
        simp only [printRows, hrow, rowLines, hrepr, if_true, Bool.false_eq_true, if_false]
        refine ⟨?_, fun h => absurd (List.mem_cons_of_mem _ (List.mem_singleton_self _)) h⟩
        simp only [List.filter_cons, Printed.isLine, if_true, Bool.false_eq_true, if_false,
          List.filter_nil, List.singleton_append]
        exact (List.prefix_cons_inj _).2 List.nil_prefix
      | ok u =>
        simp only [printRows, hrow, rowLines, hrepr, if_true, Bool.false_eq_true, if_false,
          List.cons_append, List.nil_append, List.filter_cons, Printed.isLine, List.mem_cons]
        refine ⟨(List.prefix_cons_inj _).2 ihp, fun h => ?_⟩
        rw [ihe fun h' => h (.inr (.inr h'))]

/-- **`verbose` only adds the metadata lines, and the exceptions their `repr` raises**:
with `verbose=False` the listing prints at least the lines the verbose listing of the
same backups prints, without its metadata lines; and, unless a verbose
`print("    metadata:", meta)` raised, exactly those, raising what the verbose listing
raises. -/
theorem printBasebackupList_quiet (parseTimestamp : String → Option Datetime) (reprDepth : Nat)
    (basebackups : List BaseBackupInfo) (caption : String) :
    (printBasebackupList parseTimestamp reprDepth basebackups caption true).1.filter
          Printed.isLine <+:
        (printBasebackupList parseTimestamp reprDepth basebackups caption false).1 ∧
      (metadataLabel ∉ (printBasebackupList parseTimestamp reprDepth basebackups caption true).1 →
        printBasebackupList parseTimestamp reprDepth basebackups caption false =
          ((printBasebackupList parseTimestamp reprDepth basebackups caption true).1.filter
              Printed.isLine,
            (printBasebackupList parseTimestamp reprDepth basebackups caption true).2)) := by
  obtain ⟨hp, he⟩ := printRows_quiet parseTimestamp reprDepth (sortByName basebackups)
  have hheader : (header caption).filter Printed.isLine = header caption := rfl
  refine ⟨?_, fun h => ?_⟩
  · simp only [printBasebackupList, List.filter_append, hheader]
    exact (List.prefix_append_right_inj _).2 hp
  · simp only [printBasebackupList, List.mem_append, not_or] at h
    simp only [printBasebackupList, List.filter_append, hheader, he h.2]

/-- A backup with a list in its metadata, which takes three nested `repr` calls. -/
def taggedBackup : BaseBackupInfo :=
  ⟨"site_name/basebackup/2022_12_10", "site_name",
    [("size", .int 0), ("metadata", .dict [("start-time", .datetime testPreserveUntil),
      ("tags", .list [.str "weekly"])])]⟩

theorem printBasebackupList_quiet_taggedBackup :
    (printBasebackupList (fun _ => none) 2 [taggedBackup] "Available basebackups" true).2 =
        some .recursionError ∧
      (printBasebackupList (fun _ => none) 2 [taggedBackup] "Available basebackups" false).2 =
        none ∧
      ((printBasebackupList (fun _ => none) 2 [taggedBackup] "Available basebackups" true).1.filter
          Printed.isLine <+:
        (printBasebackupList (fun _ => none) 2 [taggedBackup] "Available basebackups" false).1 ∧
      (metadataLabel ∉
          (printBasebackupList (fun _ => none) 2 [taggedBackup] "Available basebackups" true).1 →
        printBasebackupList (fun _ => none) 2 [taggedBackup] "Available basebackups" false =
          ((printBasebackupList (fun _ => none) 2 [taggedBackup] "Available basebackups"
              true).1.filter Printed.isLine,
            (printBasebackupList (fun _ => none) 2 [taggedBackup] "Available basebackups"
              true).2))) :=
  have hsorted : sortByName [taggedBackup] = [taggedBackup] := List.mergeSort_singleton _
  ⟨by rw [printBasebackupList, hsorted]; rfl, by rw [printBasebackupList, hsorted]; rfl,
    printBasebackupList_quiet _ _ _ _⟩

end Pghoard
