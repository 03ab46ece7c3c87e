import Pghoard.Storage

/-!
# Backups listed from a bucket, and their preservation requests

`BaseBackupInfoFromBucket` is a backup as `BucketObjectStore.list_basebackups`
lists it: its manifest key, its site, the site's key prefix and the listing entry.
Its methods read the manifest and record or cancel a *preservation request*: an
empty object at `<prefix>/preservation_request/<backup>_<preserve_until>` whose
metadata names the backup, which retention consults before deleting it.

## Main results

* `requestName_isPathComponent` — the request name is one path component, whatever
  the backup name (a full manifest key included) and the timestamp.
* `requestPath_leafIn` — the request key lies directly inside
  `<prefix>/preservation_request`, under the request name.
* `requestPath_eq_iff` — two requests write the same key exactly when their sites
  share the request directory, their backups the `pathlib` name, and their timestamps
  print alike; so two requests that write the same key write the same metadata
  (`requestPath_injective`).
* `request_then_cancel` — a request writes its key and nothing else, a cancel with
  the returned name deletes that key and nothing else, and the two together give
  back the store they started from when the key was new.

## Design notes

The `storage` a `BaseBackupInfoFromBucket` holds is the store its methods act on,
which here they take as an argument (`Store`) and return.  A driver call is atomic:
it either has the effect `Pghoard.Storage` gives it or raises and changes nothing.
The `try_` variants take the exception the call raised, if any, as an argument; the
restore clients of `Pghoard.Restores` choose it at each step.
-/

namespace Pghoard

/-- `BaseBackupInfo`: a backup as a listing reports it. -/
structure BaseBackupInfo where
  name : String
  site : String
  data : PyDict
  deriving Inhabited

/-- `BaseBackupInfoFromBucket`: a backup listed from the object store; `sitePrefix` is
its `self.prefix`, the key prefix of its site. -/
structure BaseBackupInfoFromBucket extends BaseBackupInfo where
  sitePrefix : String

/-! ## The request key -/

/-- `request_name = f"{Path(self.name).name}_{preserve_until}"`. -/
def requestName (name : String) (preserveUntil : Datetime) : String :=
  PurePosixPath.name name ++ "_" ++ preserveUntil.str

/-- `os.path.join(self.prefix, "preservation_request", request_name)`, computed the
same way by the request and by the cancel. -/
def requestPath (sitePrefix requestName : String) : String :=
  OsPath.join sitePrefix ["preservation_request", requestName]

/-- The metadata of a request, `{"preserve-backup": ..., "preserve-until": ...}`. -/
def requestMetadata (name : String) (preserveUntil : Datetime) : List (String × String) :=
  [("preserve-backup", PurePosixPath.name name), ("preserve-until", preserveUntil.str)]

/-- The directory of the preservation requests of a site. -/
def preservationDir (sitePrefix : String) : String :=
  OsPath.join sitePrefix ["preservation_request"]

theorem slash_not_mem_requestName (name : String) (u : Datetime) :
    '/' ∉ (requestName name u).data := by
  simp only [requestName, String.data_append, List.mem_append, not_or]
  exact ⟨⟨PurePosixPath.slash_not_mem_name name, by decide⟩, u.not_mem_str (by decide) (by decide)⟩

theorem underscore_mem_requestName (name : String) (u : Datetime) :
    '_' ∈ (requestName name u).data := by
  simp [requestName]

/-- **A request name is one path component**, for every backup name and timestamp. -/
theorem requestName_isPathComponent (name : String) (u : Datetime) :
    IsPathComponent (requestName name u) := by
  refine ⟨slash_not_mem_requestName name u, fun h => ?_, fun h => ?_⟩ <;>
    have := underscore_mem_requestName name u <;> rw [h] at this <;> revert this <;> decide

theorem getLast?_preservationDir (sitePrefix : String) :
    (preservationDir sitePrefix).data.getLast? = some 't' :=
  OsPath.getLast?_join₂ sitePrefix "preservation_request" (by decide)

/-- The request key is the request name inside the site's request directory. -/
theorem requestPath_eq (sitePrefix : String) {r : String} (hr : '/' ∉ r.data) :
    requestPath sitePrefix r = preservationDir sitePrefix ++ "/" ++ r := by
  have hlast := getLast?_preservationDir sitePrefix
  rw [requestPath, show ["preservation_request", r] = ["preservation_request"] ++ [r] from rfl,
    OsPath.join_append_singleton]
  exact OsPath.join₂_eq (fun h => hr (List.mem_of_mem_head? h))
    (fun h => by rw [preservationDir, h] at hlast; simp at hlast)
    (by rw [← preservationDir, hlast]; decide)

/-- **The request key lies directly inside the site's request directory.** -/
theorem requestPath_leafIn (sitePrefix name : String) (u : Datetime) :
    leafIn (preservationDir sitePrefix) (requestPath sitePrefix (requestName name u)) =
      some (requestName name u) := by
  rw [requestPath_eq sitePrefix (slash_not_mem_requestName name u)]
  exact leafIn_append (List.ne_nil_of_mem (underscore_mem_requestName name u))
    (slash_not_mem_requestName name u)

/-- **A request key is its directory and its name**: two requests write the same key
exactly when their sites have the same request directory, their backups the same
`pathlib` name, and their timestamps print alike. -/
theorem requestPath_eq_iff {sitePrefix sitePrefix' name name' : String} {u u' : Datetime} :
    requestPath sitePrefix (requestName name u) = requestPath sitePrefix' (requestName name' u') ↔
      preservationDir sitePrefix = preservationDir sitePrefix' ∧
        PurePosixPath.name name = PurePosixPath.name name' ∧ u.str = u'.str := by
  have hslash := slash_not_mem_requestName name u
  have hslash' := slash_not_mem_requestName name' u'
  have hunder : ∀ v : Datetime, '_' ∉ v.str.data := fun v => v.not_mem_str (by decide) (by decide)
  rw [requestPath_eq _ hslash, requestPath_eq _ hslash']
  constructor
  · intro h
    have hkey := congrArg String.data h
    simp only [String.data_append, List.append_assoc, show ("/" : String).data = ['/'] from rfl,
      List.singleton_append] at hkey
    obtain ⟨hdir, hr⟩ := eq_of_append_cons_eq hkey hslash hslash'
    simp only [requestName, String.data_append, List.append_assoc,
      show ("_" : String).data = ['_'] from rfl, List.singleton_append] at hr
    obtain ⟨hname, hstr⟩ := eq_of_append_cons_eq hr (hunder u) (hunder u')
    exact ⟨String.ext hdir, String.ext hname, String.ext hstr⟩
  · rintro ⟨hdir, hname, hstr⟩
    rw [hdir, requestName, requestName, hname, hstr]

/-- **A request key determines its metadata**: two requests that write the same key
name the same backup and the same timestamp. -/
theorem requestPath_injective {sitePrefix sitePrefix' name name' : String} {u u' : Datetime}
    (h : requestPath sitePrefix (requestName name u) = requestPath sitePrefix' (requestName name' u')) :
    requestMetadata name u = requestMetadata name' u' := by
  obtain ⟨-, hname, hstr⟩ := requestPath_eq_iff.1 h
  rw [requestMetadata, requestMetadata, hname, hstr]

/-- The `preserve_until` of `test_object_store`, 2022-12-18 10:20:30.123456 UTC. -/
def testPreserveUntil : Datetime :=
  ⟨⟨2022, 12, 18, by decide, by decide, by decide⟩, 10, 20, 30, 123456,
    some ⟨⟨0, by decide⟩, none⟩, 0, by decide, by decide, by decide, by decide⟩

/-! ## The methods -/

namespace BaseBackupInfoFromBucket

variable (info : BaseBackupInfoFromBucket) (s : Store)

/-- `get_basebackup_metadata()`. -/
def getBasebackupMetadata : Except PyError (List (String × String)) :=
  s.getMetadataForKey info.name

/-- `get_basebackup_file_to_fileobj(fileobj)`: the bytes `get_contents_to_fileobj`
writes to `fileobj`, and the metadata it returns. -/
def getBasebackupFileToFileobj : Except PyError (List UInt8 × List (String × String)) :=
  s.getContentsToString info.name

/-- `get_file_bytes()`, `get_contents_to_string(self.name)[0]`. -/
def getFileBytes : Except PyError (List UInt8) :=
  (s.getContentsToString info.name).map Prod.fst

/-- `request_backup_preservation(preserve_until)`: the request name, and the store
with an empty object and the request's metadata at the request key. -/
def requestBackupPreservation (preserveUntil : Datetime) : String × Store :=
  (requestName info.name preserveUntil,
    s.storeFileFromMemory (requestPath info.sitePrefix (requestName info.name preserveUntil)) []
      (requestMetadata info.name preserveUntil))

/-- `cancel_backup_preservation(request_name)`. -/
def cancelBackupPreservation (requestName : String) : Except PyError Store :=
  s.deleteKey (requestPath info.sitePrefix requestName)

/-- `try_request_backup_preservation(preserve_until)`; `raised` is the exception the
storage call raised, if it did, which is logged and turned into `None`. -/
def tryRequestBackupPreservation (preserveUntil : Datetime) (raised : Option PyError) :
    Option String × Store :=
  match raised with
  | some _ => (none, s)
  | none => ((info.requestBackupPreservation s preserveUntil).1,
      (info.requestBackupPreservation s preserveUntil).2)

/-- `try_cancel_backup_preservation(request_name)`; `raised` is a transient exception of
the storage call, if there was one.  Every exception is logged and swallowed. -/
def tryCancelBackupPreservation (requestName : String) (raised : Option PyError) : Store :=
  match raised, info.cancelBackupPreservation s requestName with
  | none, .ok s' => s'
  | _, _ => s

variable {info s}

@[simp] theorem requestBackupPreservation_fst (u : Datetime) :
    (info.requestBackupPreservation s u).1 = requestName info.name u := rfl

theorem lookup_requestBackupPreservation (u : Datetime) :
    (info.requestBackupPreservation s u).2.lookup
        (requestPath info.sitePrefix (requestName info.name u)) =
      some ⟨[], requestMetadata info.name u⟩ :=
  Store.lookup_storeFileFromMemory ..

theorem lookup_requestBackupPreservation_ne (u : Datetime) {k : String}
    (hk : k ≠ requestPath info.sitePrefix (requestName info.name u)) :
    (info.requestBackupPreservation s u).2.lookup k = s.lookup k :=
  Store.lookup_storeFileFromMemory_ne _ _ hk

theorem cancelBackupPreservation_eq_ok {r : String} {s' : Store}
    (h : info.cancelBackupPreservation s r = .ok s') :
    s'.lookup (requestPath info.sitePrefix r) = none ∧
      ∀ k ≠ requestPath info.sitePrefix r, s'.lookup k = s.lookup k :=
  ⟨Store.lookup_deleteKey h, fun _ hk => Store.lookup_deleteKey_ne h hk⟩

/-- **Request, then cancel.**  The request name is the backup's `pathlib` name, `_`, and
`str(preserve_until)`, and it is one path component.  The request writes one key,
inside `<prefix>/preservation_request`, with an empty body and the request's
metadata; a cancel with the returned name deletes that key; neither touches any
other key, so neither touches a key outside the request directory; and when the key
was new, the cancel gives back the store the request started from. -/
theorem request_then_cancel (info : BaseBackupInfoFromBucket) (u : Datetime) (s : Store) :
    let r := (info.requestBackupPreservation s u).1
    let K := OsPath.join info.sitePrefix ["preservation_request", r]
    let dir := OsPath.join info.sitePrefix ["preservation_request"]
    r = PurePosixPath.name info.name ++ "_" ++ u.str ∧ IsPathComponent r ∧
      leafIn dir K = some r ∧
      (info.requestBackupPreservation s u).2.lookup K =
        some ⟨[], [("preserve-backup", PurePosixPath.name info.name), ("preserve-until", u.str)]⟩ ∧
      (∀ k ≠ K, (info.requestBackupPreservation s u).2.lookup k = s.lookup k) ∧
      (∀ s₁ s₂ : Store, info.cancelBackupPreservation s₁ r = .ok s₂ →
        s₂.lookup K = none ∧ ∀ k ≠ K, s₂.lookup k = s₁.lookup k) ∧
      (∀ k, leafIn dir k = none →
        (info.requestBackupPreservation s u).2.lookup k = s.lookup k ∧
        ∀ s₁ s₂ : Store, info.cancelBackupPreservation s₁ r = .ok s₂ → s₂.lookup k = s₁.lookup k) ∧
      (K ∉ s → info.cancelBackupPreservation (info.requestBackupPreservation s u).2 r = .ok s) := by
  intro r K dir
  have hK : leafIn dir K = some r := requestPath_leafIn info.sitePrefix info.name u
  have houtside : ∀ k, leafIn dir k = none → k ≠ K := fun k hk hkK => by
    rw [hkK, hK] at hk; cases hk
  refine ⟨rfl, requestName_isPathComponent _ _, hK, lookup_requestBackupPreservation u,
    fun k hk => lookup_requestBackupPreservation_ne u hk,
    fun s₁ s₂ h => cancelBackupPreservation_eq_ok h,
    fun k hk => ⟨lookup_requestBackupPreservation_ne u (houtside k hk),
      fun s₁ s₂ h => (cancelBackupPreservation_eq_ok h).2 k (houtside k hk)⟩,
    fun hnew => Store.deleteKey_storeFileFromMemory _ _ hnew⟩

-- The request of `test_object_store_request_backup_preservation`.
example : requestPath "site_name" (requestName "2022_12_10" testPreserveUntil) =
    "site_name/preservation_request/2022_12_10_2022-12-18 10:20:30.123456+00:00" := rfl

end BaseBackupInfoFromBucket

end Pghoard
