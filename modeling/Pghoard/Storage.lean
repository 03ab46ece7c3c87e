import Mathlib.Data.List.AList
import Pghoard.Runtime.Value
import Pghoard.Runtime.Path

/-!
# The object store

The storage driver (rohmu's `BaseTransfer`) is not part of this repository; the
spec presumes it exposes "a uniform key/value blob interface" (§4.A): put, get,
list, delete and metadata per key.  The store is therefore a finite map from keys
to objects, and each driver call is one function on it.

## Main definitions

* `Store` — keys to `StoredObject`s (bytes and a `str`-to-`str` metadata map).
* `Store.storeFileFromMemory`, `Store.deleteKey`, `Store.getMetadataForKey`,
  `Store.getContentsToString`, `Store.listPath` — the driver calls the object-store
  code makes.
* `leafIn dir key` — the name of `key` directly inside the directory `dir`, the
  one notion of "a key under a prefix" the listing and the preservation requests
  share.

## Main results

* `lookup_storeFileFromMemory_ne`, `lookup_deleteKey_ne` — each call changes one key.
* `deleteKey_storeFileFromMemory` — deleting a key just written restores the store,
  if the key was absent before.
* `listPath_storeFileFromMemory_of_leafIn_eq_none`, `listPath_deleteKey_of_leafIn_eq_none`
  — writing or deleting a key outside a directory leaves that directory's listing
  as it was; `mem_listPath` — a listing lists the objects directly inside the
  directory.

## Design notes

`delete_key` of an absent key raises `FileNotFoundFromStorageError(key)`, as every
rohmu backend does.  Transient failures of a call are not part of the store: where
they matter (`Pghoard.Restores`) they are steps of their own that leave the store as
it was.  A listing entry carries `name`, `size` and `metadata`; `last_modified` is
not modelled, since nothing in the object-store code reads it.
-/

namespace Pghoard

/-- A stored object: its bytes and its metadata. -/
structure StoredObject where
  body : List UInt8
  metadata : List (String × String)
  deriving DecidableEq

/-- Modelled from the spec: the object store behind a `BaseTransfer` (§4.A), keys to
objects. -/
abbrev Store := AList fun _ : String => StoredObject

/-- The name of `key` directly inside the directory `dir`: what follows `dir ++ "/"`,
when that is a non-empty name without `/`. -/
def leafIn (dir key : String) : Option String :=
  if (dir.data ++ ['/']).isPrefixOf key.data ∧ key.data.drop (dir.data.length + 1) ≠ [] ∧
      '/' ∉ key.data.drop (dir.data.length + 1) then
    some ⟨key.data.drop (dir.data.length + 1)⟩
  else none

theorem leafIn_eq_some {dir key leaf : String} (h : leafIn dir key = some leaf) :
    key = dir ++ "/" ++ leaf ∧ leaf.data ≠ [] ∧ '/' ∉ leaf.data := by
  unfold leafIn at h
  split_ifs at h with hin
  cases h
  obtain ⟨hpre, hrest⟩ := hin
  obtain ⟨t, ht⟩ := List.isPrefixOf_iff_prefix.1 hpre
  have hdrop : key.data.drop (dir.data.length + 1) = t := by
    rw [← ht]; exact List.drop_left' (by simp)
  rw [hdrop] at hrest ⊢
  exact ⟨String.ext (by simp [← ht]), hrest⟩

theorem leafIn_append {dir leaf : String} (hne : leaf.data ≠ []) (hleaf : '/' ∉ leaf.data) :
    leafIn dir (dir ++ "/" ++ leaf) = some leaf := by
  have hdata : (dir ++ "/" ++ leaf).data = (dir.data ++ ['/']) ++ leaf.data := by
    simp only [String.data_append]
  have hdrop : (dir ++ "/" ++ leaf).data.drop (dir.data.length + 1) = leaf.data := by
    rw [hdata]; exact List.drop_left' (by simp only [List.length_append, List.length_singleton])
  have hpre : (dir.data ++ ['/']).isPrefixOf (dir ++ "/" ++ leaf).data := by
    rw [hdata]; exact List.isPrefixOf_iff_prefix.2 (List.prefix_append _ _)
  rw [leafIn, if_pos ⟨hpre, hdrop ▸ hne, hdrop ▸ hleaf⟩, hdrop]

namespace Store

variable (s : Store)

/-- `store_file_from_memory(key, memstring, metadata)`. -/
def storeFileFromMemory (key : String) (body : List UInt8)
    (metadata : List (String × String)) : Store :=
  s.insert key ⟨body, metadata⟩

/-- `delete_key(key)`. -/
def deleteKey (key : String) : Except PyError Store :=
  if key ∈ s then .ok (s.erase key) else .error (.fileNotFoundFromStorage key)

/-- `get_metadata_for_key(key)`. -/
def getMetadataForKey (key : String) : Except PyError (List (String × String)) :=
  match s.lookup key with
  | some obj => .ok obj.metadata
  | none => .error (.fileNotFoundFromStorage key)

/-- `get_contents_to_string(key)`: the bytes and the metadata. -/
def getContentsToString (key : String) :
    Except PyError (List UInt8 × List (String × String)) :=
  match s.lookup key with
  | some obj => .ok (obj.body, obj.metadata)
  | none => .error (.fileNotFoundFromStorage key)

/-- The entry `list_path` reports for one object. -/
def listEntry (key : String) (obj : StoredObject) : PyDict :=
  [("name", .str key), ("size", .int obj.body.length),
    ("metadata", .dict (obj.metadata.map fun kv => (kv.1, .str kv.2)))]

/-- `list_path(dir)`: the objects directly inside `dir`. -/
def listPath (dir : String) : List PyDict :=
  s.entries.filterMap fun e => (leafIn dir e.1).map fun _ => listEntry e.1 e.2

variable {s}

@[simp] theorem lookup_storeFileFromMemory (key : String) (body : List UInt8)
    (metadata : List (String × String)) :
    (s.storeFileFromMemory key body metadata).lookup key = some ⟨body, metadata⟩ :=
  AList.lookup_insert s

theorem lookup_storeFileFromMemory_ne {key k : String} (body : List UInt8)
    (metadata : List (String × String)) (hk : k ≠ key) :
    (s.storeFileFromMemory key body metadata).lookup k = s.lookup k :=
  AList.lookup_insert_ne hk

theorem deleteKey_eq_ok {key : String} {s' : Store} (h : s.deleteKey key = .ok s') :
    key ∈ s ∧ s' = s.erase key := by
  unfold deleteKey at h
  split_ifs at h with hk
  cases h
  exact ⟨hk, rfl⟩

theorem deleteKey_eq_error {key : String} {e : PyError} (h : s.deleteKey key = .error e) :
    key ∉ s := by
  unfold deleteKey at h
  split_ifs at h with hk
  exact hk

theorem lookup_deleteKey {key : String} {s' : Store} (h : s.deleteKey key = .ok s') :
    s'.lookup key = none := by
  rw [(deleteKey_eq_ok h).2]; exact AList.lookup_erase key s

theorem lookup_deleteKey_ne {key k : String} {s' : Store} (h : s.deleteKey key = .ok s')
    (hk : k ≠ key) : s'.lookup k = s.lookup k := by
  rw [(deleteKey_eq_ok h).2]; exact AList.lookup_erase_ne hk

/-- Deleting a key just written restores the store, when the key was absent. -/
theorem deleteKey_storeFileFromMemory {key : String} (body : List UInt8)
    (metadata : List (String × String)) (hk : key ∉ s) :
    (s.storeFileFromMemory key body metadata).deleteKey key = .ok s := by
  have hmem : key ∈ s.storeFileFromMemory key body metadata := by
    simp [storeFileFromMemory, AList.mem_insert]
  simp only [deleteKey, hmem, ↓reduceIte, Except.ok.injEq]
  apply AList.ext
  show List.kerase key (s.storeFileFromMemory key body metadata).entries = s.entries
  simp only [storeFileFromMemory, AList.insert_entries]
  simp [List.kerase_cons_eq, List.kerase_of_not_mem_keys hk]

theorem filterMap_kerase {β : Type} {f : (Σ _ : String, StoredObject) → Option β}
    {key : String}
    (hf : ∀ e : Σ _ : String, StoredObject, e.1 = key → f e = none) :
    ∀ l : List (Σ _ : String, StoredObject), (l.kerase key).filterMap f = l.filterMap f
  | [] => rfl
  | e :: l => by
    by_cases he : key = e.1
    · rw [List.kerase_cons_eq he, List.filterMap_cons_none (hf e he.symm)]
    · rw [List.kerase_cons_ne he, List.filterMap_cons, List.filterMap_cons, filterMap_kerase hf l]

/-- Writing a key outside a directory leaves the directory's listing as it was. -/
theorem listPath_storeFileFromMemory_of_leafIn_eq_none {dir key : String} (body : List UInt8)
    (metadata : List (String × String)) (h : leafIn dir key = none) :
    (s.storeFileFromMemory key body metadata).listPath dir = s.listPath dir := by
  simp only [listPath, storeFileFromMemory, AList.insert_entries, List.filterMap_cons, h,
    Option.map_none']
  exact filterMap_kerase (fun e he => by simp [he, h]) _

/-- Deleting a key outside a directory leaves the directory's listing as it was. -/
theorem listPath_deleteKey_of_leafIn_eq_none {dir key : String} {s' : Store}
    (hs : s.deleteKey key = .ok s') (h : leafIn dir key = none) : s'.listPath dir = s.listPath dir := by
  rw [(deleteKey_eq_ok hs).2]
  exact filterMap_kerase (fun e he => by simp [he, h]) _

/-- The reads of a key see what the key holds and nothing else. -/
theorem reads_congr {s' : Store} {key : String} (h : s'.lookup key = s.lookup key) :
    s'.getMetadataForKey key = s.getMetadataForKey key ∧
      s'.getContentsToString key = s.getContentsToString key := by
  simp only [getMetadataForKey, getContentsToString, h, and_self]

/-- An entry of a listing is the entry of an object stored directly inside the
directory. -/
theorem mem_listPath {dir : String} {r : PyDict} (h : r ∈ s.listPath dir) :
    ∃ key obj, s.lookup key = some obj ∧ (leafIn dir key).isSome ∧ r = listEntry key obj := by
  obtain ⟨⟨key, obj⟩, he, hr⟩ := List.mem_filterMap.1 h
  obtain ⟨leaf, hleaf, rfl⟩ := Option.map_eq_some'.1 hr
  exact ⟨key, obj, AList.mem_lookup_iff.2 he, by rw [hleaf]; rfl, rfl⟩

end Store

end Pghoard
