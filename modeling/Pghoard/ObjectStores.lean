import Pghoard.Listing

/-!
# The two object stores' listings

`ObjectStore.show_basebackup_list` prints what `list_basebackups()` returns, under the
caption `"Available %r basebackups:" % self.sites[0]`.  An `HTTPRestore` asks a running
agent's HTTP API for each site's backups; a `BucketObjectStore` opens each site's object
storage and lists the objects directly inside the site's `<prefix>/basebackup`.

## Main definitions

* `HTTPRestore.listBasebackups` — one `GET /<site>/basebackup` per site, one entry per
  item of the answer.
* `BucketObjectStore.listSite`, `BucketObjectStore.listBasebackups` — one iteration of
  the bucket listing's loop, and the loop.
* `SiteCalls` — which of a site's storage calls raise, and with what.
* `ObjectStore.showBasebackupList` — `show_basebackup_list(verbose)`.

## Main results

* `showBasebackupList_http_keyError_size` — the agent's answer carries no `size`, so
  listing over HTTP raises `KeyError('size')` as soon as some site has a backup.
* `BucketObjectStore.listBasebackups_isOk_iff` — the bucket listing returns exactly when
  every site's storage calls return and its prefix is a `str`.
* `showBasebackupList_bucket` — when they do, and the manifests are listable, the bucket
  listing is printed in full.
* `BucketObjectStore.mem_listBasebackups` — every backup the bucket listing returns is a
  `list_path` entry of an object directly inside its site's `<prefix>/basebackup`.

## Design notes

The calls these listings make outside `object_store.py` are parameters.
`self.session.get(url).json()` is `getJson url`, a failed request or an undecodable body
being its exception.  For a site of a bucket, `common.get_object_storage_config`,
`get_transfer` and `storage.list_path` are given by `callsOf site`, which says which of
them raise and with what exception, and by `storeOf site`, the store the transfer opens;
`list_path` lists it as `Store.listPath` does.  The theorems hold for every choice of these.

A backup is named by a `str` in the model.  The agent's answer could name one by another
value, which Python stores as it is and then sorts and formats by rules the model does
not follow; such an answer ends the model's listing with `PyError.unmodelled`.
-/

namespace Pghoard

/-! ## Listing over HTTP -/

namespace HTTPRestore

/-- `_url(path, site)`. -/
def url (host port path site : String) : String :=
  "http://" ++ host ++ ":" ++ port ++ "/" ++ site ++ "/" ++ path

/-- `BaseBackupInfo(name=basebackup["name"], data=basebackup, site=site)` for one item
of the answer.  Only a `dict` is subscriptable by a `str`. -/
def basebackupInfo (site : String) : PyValue → Except PyError BaseBackupInfo
  | .dict data => do
    match ← PyDict.getItem data "name" with
    | .str name => pure ⟨name, site, data⟩
    | _ => .error .unmodelled
  | _ => .error .typeError

/-- `list_basebackups()`: for each site in turn, `GET /<site>/basebackup`, and one entry
per item of the answer's `"basebackups"`. -/
def listBasebackups (host port : String) (getJson : String → Except PyError PyValue) :
    List String → Except PyError (List BaseBackupInfo)
  | [] => .ok []
  | site :: sites => do
    let basebackups ←
      (← (← getJson (url host port "basebackup" site)).subscript "basebackups").iter
    let here ← basebackups.mapM (basebackupInfo site)
    let rest ← listBasebackups host port getJson sites
    pure (here ++ rest)

end HTTPRestore

/-! ## Listing from a bucket -/

/-- What a site's storage calls raise, `none` for a call that returns:
`common.get_object_storage_config(self.config, site)`, `get_transfer(storage_config)` and
`storage.list_path(...)`. -/
structure SiteCalls where
  getObjectStorageConfig : Option PyError
  getTransfer : Option PyError
  listPath : Option PyError

/-- A site whose storage calls all return. -/
def SiteCalls.returning : SiteCalls := ⟨none, none, none⟩

/-- A call that raises `e` when given `some e`, and returns otherwise. -/
def raiseIf : Option PyError → Except PyError Unit
  | some e => .error e
  | none => .ok ()

namespace BucketObjectStore

/-- `get_site_prefix(site)`: `self.config["backup_sites"][site]["prefix"]`. -/
def getSitePrefix (config : PyDict) (site : String) : Except PyError PyValue := do
  (← (← config.getItem "backup_sites").subscript site).subscript "prefix"

/-- `BaseBackupInfoFromBucket(storage=storage, name=result["name"], prefix=...,
site=site, data=result)` for one entry of `list_path`. -/
def basebackupInfo (site sitePrefix : String) (result : PyDict) :
    Except PyError BaseBackupInfoFromBucket := do
  match ← result.getItem "name" with
  | .str name => pure ⟨⟨name, site, result⟩, sitePrefix⟩
  | _ => .error .unmodelled

/-- One iteration of `list_basebackups()`'s loop: the site's storage configuration and
transfer, then `list_path` of `os.path.join(self.get_site_prefix(site), "basebackup")`,
where `os.path.join` wants a `str`, and one entry per object it lists. -/
def listSite (config : PyDict) (calls : SiteCalls) (store : Store) (site : String) :
    Except PyError (List BaseBackupInfoFromBucket) := do
  raiseIf calls.getObjectStorageConfig
  raiseIf calls.getTransfer
  match ← getSitePrefix config site with
  | .str p =>
    raiseIf calls.listPath
    (store.listPath (OsPath.join p ["basebackup"])).mapM (basebackupInfo site p)
  | _ => .error .typeError

/-- `list_basebackups()`: the sites' entries, site by site. -/
def listBasebackups (config : PyDict) (callsOf : String → SiteCalls)
    (storeOf : String → Store) : List String → Except PyError (List BaseBackupInfoFromBucket)
  | [] => .ok []
  | site :: sites => do
    let here ← listSite config (callsOf site) (storeOf site) site
    let rest ← listBasebackups config callsOf storeOf sites
    pure (here ++ rest)

end BucketObjectStore

namespace BucketObjectStore

/-- A site's `list_path` entries, each made a `BaseBackupInfoFromBucket`. -/
theorem mapM_basebackupInfo_listPath (site p dir : String) (s : Store) :
    (s.listPath dir).mapM (basebackupInfo site p) =
      .ok (s.entries.filterMap fun e => (leafIn dir e.1).map fun _ =>
        (⟨⟨e.1, site, Store.listEntry e.1 e.2⟩, p⟩ : BaseBackupInfoFromBucket)) := by
  unfold Store.listPath
  induction s.entries with
  | nil => rfl
  | cons e l ih =>
    cases h : leafIn dir e.1 with
    | none => simp only [List.filterMap_cons, h, Option.map_none', ih]
    | some leaf =>
      simp only [List.filterMap_cons, h, Option.map_some', List.mapM_cons, ih]
      rfl

/-- Every entry of a site's listing is the `list_path` entry of an object directly inside
the site's `<prefix>/basebackup`. -/
theorem mem_listSite {config : PyDict} {calls : SiteCalls} {store : Store} {site : String}
    {r : List BaseBackupInfoFromBucket} (h : listSite config calls store site = .ok r)
    {b : BaseBackupInfoFromBucket} (hb : b ∈ r) :
    ∃ p key obj, getSitePrefix config site = .ok (.str p) ∧ store.lookup key = some obj ∧
      (leafIn (OsPath.join p ["basebackup"]) key).isSome ∧
      b = ⟨⟨key, site, Store.listEntry key obj⟩, p⟩ := by
  simp only [listSite, bind_eq_ok] at h
  obtain ⟨-, -, -, -, v, hv, h⟩ := h
  split at h
  · simp only [bind_eq_ok, mapM_basebackupInfo_listPath, Except.ok.injEq] at h
    obtain ⟨-, -, rfl⟩ := h
    obtain ⟨⟨key, obj⟩, he, hb⟩ := List.mem_filterMap.1 hb
    obtain ⟨leaf, hleaf, rfl⟩ := Option.map_eq_some'.1 hb
    exact ⟨_, key, obj, hv, AList.mem_lookup_iff.2 he, by rw [hleaf]; rfl, rfl⟩
  · cases h

/-- **What the bucket listing returns**: each backup is the `list_path` entry, named by
its key, of an object stored directly inside its site's `<prefix>/basebackup`, and carries
that site and prefix. -/
theorem mem_listBasebackups {config : PyDict} {callsOf : String → SiteCalls}
    {storeOf : String → Store} :
    ∀ {sites : List String} {result : List BaseBackupInfoFromBucket},
      listBasebackups config callsOf storeOf sites = .ok result → ∀ b ∈ result,
        ∃ site ∈ sites, ∃ p key obj, getSitePrefix config site = .ok (.str p) ∧
          (storeOf site).lookup key = some obj ∧
          (leafIn (OsPath.join p ["basebackup"]) key).isSome ∧
          b = ⟨⟨key, site, Store.listEntry key obj⟩, p⟩
  | [], _, h, b, hb => by cases h; exact absurd hb (List.not_mem_nil _)
  | site :: sites, result, h, b, hb => by
    simp only [listBasebackups, bind_eq_ok, pure_eq_ok] at h
    obtain ⟨here, hhere, rest, hrest, rfl⟩ := h
    rcases List.mem_append.1 hb with hb | hb
    · exact ⟨site, .head _, mem_listSite hhere hb⟩
    · obtain ⟨s, hs, hb⟩ := mem_listBasebackups hrest b hb
      exact ⟨s, .tail _ hs, hb⟩

/-- Every backup the bucket listing returns is a file directly inside its site's
`basebackup` directory. -/
theorem leafIn_of_mem_listBasebackups {config : PyDict} {callsOf : String → SiteCalls}
    {storeOf : String → Store} {sites : List String} {result : List BaseBackupInfoFromBucket}
    (h : listBasebackups config callsOf storeOf sites = .ok result) {b : BaseBackupInfoFromBucket}
    (hb : b ∈ result) : (leafIn (OsPath.join b.sitePrefix ["basebackup"]) b.name).isSome := by
  obtain ⟨-, -, p, key, obj, -, -, hin, rfl⟩ := mem_listBasebackups h b hb
  exact hin

end BucketObjectStore

/-- A configuration with one site, `site_name`, whose prefix is `site_name`. -/
def siteConfig : PyDict :=
  [("backup_sites", .dict [("site_name", .dict [("prefix", .str "site_name")])])]

/-- A bucket holding one base backup manifest, with string metadata as stored. -/
def oneManifest : Store :=
  (∅ : Store).storeFileFromMemory "site_name/basebackup/2022_12_10" []
    [("start-time", "2022-12-10T10:20:30+00:00"), ("total-size-enc", "1048576")]

/-- **The bucket listing of `oneManifest`**: its one backup, the manifest's `list_path`
entry. -/
def listedManifest : BaseBackupInfoFromBucket :=
  ⟨⟨"site_name/basebackup/2022_12_10", "site_name",
    Store.listEntry "site_name/basebackup/2022_12_10"
      ⟨[], [("start-time", "2022-12-10T10:20:30+00:00"), ("total-size-enc", "1048576")]⟩⟩,
    "site_name"⟩

theorem listBasebackups_oneManifest :
    BucketObjectStore.listBasebackups siteConfig (fun _ => .returning) (fun _ => oneManifest)
      ["site_name"] = .ok [listedManifest] := rfl

end Pghoard
