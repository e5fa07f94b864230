import KvServer.Absl
import Mathlib.Data.String.Basic
import Mathlib.Data.List.Sort

/-!
# `ListBlobs` on S3 and on Cloud Storage

The data loaders find the delta files of a bucket with `BlobStorageClient::ListBlobs`.
`S3BlobStorageClient::ListBlobs` (`components/data/blob_storage/blob_storage_client_s3.cc`) pages
through `ListObjectsV2` until a page is not truncated. `GcpBlobStorageClient::ListBlobs`
(`components/data/blob_storage/blob_storage_client_gcp.cc`) reads the range of `ListObjects`,
skips the items that failed and the start name, and sorts the rest.

The stores are not in the sources. A bucket is its keys in ascending order, each non-empty: both
stores list keys in UTF-8 byte order, which is the order of `String`. `ListObjectsV2` is any
function that pages the keys a request asks for (`PagesListing`). `ListObjects` is the items its
range yields, each a name or a failure (`ListsObjects`). `AwsErrorToStatus` and the logging are
left out.

* `listBlobs_eq_listing`: the S3 loop asks for at most one page more than there are keys to list.
  It returns either every key with the prefix after `start_after`, in order and each once, or the
  error of a page that failed.
* `listBlobs_eq_filter_listing`: on Cloud Storage the call succeeds even when items fail. Its
  result is that same listing, restricted to the names the range yielded.
* `s3_listBlobs_eq_gcp_listBlobs`: when the range yields every object it should, the two clients
  return the same keys, unless an S3 page fails.
-/

namespace KvServer

open Absl

/-- `BlobStorageClient::DataLocation`, of which `ListBlobs` reads only the bucket. -/
structure DataLocation where
  bucket : String

/-- `BlobStorageClient::ListOptions`; `keyPrefix` is its field `prefix`. -/
structure ListOptions where
  keyPrefix : String
  startAfter : String

/-- An object key starts with a prefix. -/
def hasKeyPrefix (key keyPrefix : String) : Bool := keyPrefix.data.isPrefixOf key.data

@[simp] theorem hasKeyPrefix_empty (key : String) : hasKeyPrefix key "" = true := by
  simp [hasKeyPrefix]

/-- The objects of a bucket as both stores list them: distinct non-empty keys, in ascending
order. -/
structure Bucket where
  keys : List String
  sorted : keys.Sorted (· < ·)
  empty_not_mem : "" ∉ keys

namespace Bucket

/-- What `ListBlobs` is for: the keys of the bucket that start with the prefix and come after
`start_after`, in ascending order. -/
def listing (bucket : Bucket) (options : ListOptions) : List String :=
  bucket.keys.filter fun key =>
    hasKeyPrefix key options.keyPrefix && decide (options.startAfter < key)

theorem mem_listing {bucket : Bucket} {options : ListOptions} {key : String} :
    key ∈ bucket.listing options ↔
      key ∈ bucket.keys ∧ hasKeyPrefix key options.keyPrefix ∧ options.startAfter < key := by
  simp [listing]

theorem sorted_listing (bucket : Bucket) (options : ListOptions) :
    (bucket.listing options).Sorted (· < ·) :=
  bucket.sorted.filter _

/-- Every key of a bucket comes after the empty name. -/
theorem empty_lt_of_mem (bucket : Bucket) {key : String} (hkey : key ∈ bucket.keys) :
    "" < key := by
  rw [String.lt_iff_toList_lt]
  obtain ⟨_ | ⟨c, cs⟩⟩ := key
  · exact absurd hkey bucket.empty_not_mem
  · exact List.nil_lt_cons c cs

end Bucket

/-! ## S3 -/

namespace S3BlobStorageClient

/-- `Aws::S3::Model::ListObjectsV2Request`, with the fields `ListBlobs` sets. -/
structure ListObjectsV2Request where
  bucket : String
  keyPrefix : Option String
  startAfter : Option String
  continuationToken : Option String

/-- A page `ListObjectsV2` returned: the keys of `GetContents()`, `GetIsTruncated()` and
`GetNextContinuationToken()`. -/
structure ListObjectsV2Result where
  contents : List String
  isTruncated : Bool
  nextContinuationToken : String

/-- The request `ListBlobs` builds: the prefix and `StartAfter` are set only when non-empty. -/
def listObjectsV2Request (location : DataLocation) (options : ListOptions) :
    ListObjectsV2Request where
  bucket := location.bucket
  keyPrefix := if options.keyPrefix.isEmpty then none else some options.keyPrefix
  startAfter := if options.startAfter.isEmpty then none else some options.startAfter
  continuationToken := none

section ListBlobs

variable (listObjectsV2 : ListObjectsV2Request → Except Status ListObjectsV2Result)

/-- The `while (!done)` loop of `ListBlobs`, asking for at most `fuel` pages: `none` when the
fuel runs out first. -/
def listBlobsLoop :
    Nat → ListObjectsV2Request → List String → Option (Except Status (List String))
  | 0, _, _ => none
  | fuel + 1, request, keys =>
    match listObjectsV2 request with
    | .error error => some (.error error)
    | .ok result =>
      if result.isTruncated then
        listBlobsLoop fuel { request with continuationToken := some result.nextContinuationToken }
          (keys ++ result.contents)
      else some (.ok (keys ++ result.contents))

/-- `S3BlobStorageClient::ListBlobs`, asking for at most `fuel` pages. -/
def listBlobs (fuel : Nat) (location : DataLocation) (options : ListOptions) :
    Option (Except Status (List String)) :=
  listBlobsLoop listObjectsV2 fuel (listObjectsV2Request location options) []

end ListBlobs

/-! ### What `ListObjectsV2` promises -/

/-- The keys `ListObjectsV2` lists for a request: those of the bucket that start with its prefix
and come after its `StartAfter`, when it sets them, in ascending order. -/
def listObjectsV2Keys (bucket : Bucket) (request : ListObjectsV2Request) : List String :=
  bucket.keys.filter fun key =>
    request.keyPrefix.all (hasKeyPrefix key) && request.startAfter.all fun startAfter =>
      decide (startAfter < key)

/-- A page fits a listing, where `rest` is what its request has still to list and `next` what
its continuation token stands for: a truncated page lists a non-empty first part of `rest` and
leaves `next`, and a last page lists all of `rest`. -/
def PageFits (rest next : List String) (result : ListObjectsV2Result) : Prop :=
  if result.isTruncated then result.contents ≠ [] ∧ result.contents ++ next = rest
  else result.contents = rest

/-- `ListObjectsV2` pages `keys` for `request`: each continuation token stands for the part of
`keys` still to list (all of them before the first page), and every page it returns fits. Pages
may fail. -/
def PagesListing (listObjectsV2 : ListObjectsV2Request → Except Status ListObjectsV2Result)
    (request : ListObjectsV2Request) (keys : List String) : Prop :=
  ∃ rest : Option String → List String, rest none = keys ∧
    ∀ token result, listObjectsV2 { request with continuationToken := token } = .ok result →
      PageFits (rest token) (rest (some result.nextContinuationToken)) result

/-- The request `ListBlobs` builds asks for the listing: an empty prefix or start name left
unset filters nothing, since no key is empty. -/
theorem listObjectsV2Keys_listObjectsV2Request (bucket : Bucket) (location : DataLocation)
    (options : ListOptions) :
    listObjectsV2Keys bucket (listObjectsV2Request location options) = bucket.listing options := by
  refine List.filter_congr fun key hkey => ?_
  by_cases hp : options.keyPrefix = "" <;> by_cases hs : options.startAfter = "" <;>
    simp [listObjectsV2Request, hp, hs, String.isEmpty_iff, bucket.empty_lt_of_mem hkey]

/-- A truncated page that fits leaves fewer keys to list. -/
theorem PageFits.length_lt {rest next : List String} {result : ListObjectsV2Result}
    (hfits : PageFits rest next result) (htruncated : result.isTruncated = true) :
    next.length < rest.length := by
  simp only [PageFits, htruncated, if_true] at hfits
  obtain ⟨hne, hnext⟩ := hfits
  have hpos := List.length_pos.2 hne
  rw [← hnext, List.length_append]
  omega

section Loop

variable {listObjectsV2 : ListObjectsV2Request → Except Status ListObjectsV2Result}
  {request : ListObjectsV2Request} {rest : Option String → List String}

/-- The loop from a continuation token, with more fuel than keys left to list, returns the keys
gathered so far followed by all those the token stands for, or the error of a page. -/
theorem listBlobsLoop_of_pages
    (hfits : ∀ token result,
      listObjectsV2 { request with continuationToken := token } = .ok result →
        PageFits (rest token) (rest (some result.nextContinuationToken)) result) :
    ∀ fuel token keys, (rest token).length < fuel →
      listBlobsLoop listObjectsV2 fuel { request with continuationToken := token } keys =
          some (.ok (keys ++ rest token)) ∨
        ∃ token' error,
          listObjectsV2 { request with continuationToken := token' } = .error error ∧
          listBlobsLoop listObjectsV2 fuel { request with continuationToken := token } keys =
            some (.error error)
  | 0, _, _, hfuel => absurd hfuel (Nat.not_lt_zero _)
  | fuel + 1, token, keys, hfuel => by
    rw [listBlobsLoop]
    cases hpage : listObjectsV2 { request with continuationToken := token } with
    | error error => exact .inr ⟨token, error, hpage, rfl⟩
    | ok result =>
      have hfit := hfits token result hpage
      dsimp only
      split_ifs with htruncated
      · have hlt := hfit.length_lt htruncated
        rcases listBlobsLoop_of_pages hfits fuel (some result.nextContinuationToken)
          (keys ++ result.contents) (by omega) with h | h
        · simp only [PageFits, htruncated, if_true] at hfit
          exact .inl (h.trans (by rw [List.append_assoc, hfit.2]))
        · exact .inr h
      · simp only [PageFits, htruncated] at hfit
        exact .inl (by rw [hfit])

end Loop

/-- **Listing on S3.** Against a `ListObjectsV2` that pages the keys its request asks for,
`ListBlobs` asks for at most one page more than there are keys to list. It returns either the
keys of the bucket with the prefix after `start_after`, in ascending order and each once, or the
error of a page that failed. -/
theorem listBlobs_eq_listing
    (listObjectsV2 : ListObjectsV2Request → Except Status ListObjectsV2Result) (bucket : Bucket)
    (location : DataLocation) (options : ListOptions)
    (hpages : PagesListing listObjectsV2 (listObjectsV2Request location options)
      (listObjectsV2Keys bucket (listObjectsV2Request location options)))
    (fuel : Nat) (hfuel : (bucket.listing options).length < fuel) :
    listBlobs listObjectsV2 fuel location options = some (.ok (bucket.listing options)) ∨
      ∃ token error, listObjectsV2
          { listObjectsV2Request location options with continuationToken := token } =
            .error error ∧
        listBlobs listObjectsV2 fuel location options = some (.error error) := by
  obtain ⟨rest, hnone, hfits⟩ := hpages
  rw [listObjectsV2Keys_listObjectsV2Request] at hnone
  have h := listBlobsLoop_of_pages hfits fuel none [] (hnone ▸ hfuel)
  rwa [hnone] at h

/-- A bucket with the keys `"a"` and `"b"`. -/
def twoKeyBucket : Bucket :=
  ⟨["a", "b"], by simp [String.lt_iff_toList_lt]; decide, by decide⟩

/-- A `ListObjectsV2` that lists `"a"` on a first, truncated page and `"b"` on the next. -/
def twoPageListObjectsV2 (request : ListObjectsV2Request) : Except Status ListObjectsV2Result :=
  match request.continuationToken with
  | none => .ok ⟨["a"], true, "next"⟩
  | some _ => .ok ⟨["b"], false, ""⟩

theorem listBlobs_eq_listing_twoPages :
    PagesListing twoPageListObjectsV2 (listObjectsV2Request ⟨"bucket"⟩ ⟨"", ""⟩)
        (listObjectsV2Keys twoKeyBucket (listObjectsV2Request ⟨"bucket"⟩ ⟨"", ""⟩)) ∧
      (twoKeyBucket.listing ⟨"", ""⟩).length < 3 ∧
      (listBlobs twoPageListObjectsV2 3 ⟨"bucket"⟩ ⟨"", ""⟩ =
          some (.ok (twoKeyBucket.listing ⟨"", ""⟩)) ∨
        ∃ token error, twoPageListObjectsV2
            { listObjectsV2Request ⟨"bucket"⟩ ⟨"", ""⟩ with continuationToken := token } =
              .error error ∧
          listBlobs twoPageListObjectsV2 3 ⟨"bucket"⟩ ⟨"", ""⟩ = some (.error error)) := by
  have hpages : PagesListing twoPageListObjectsV2 (listObjectsV2Request ⟨"bucket"⟩ ⟨"", ""⟩)
      (listObjectsV2Keys twoKeyBucket (listObjectsV2Request ⟨"bucket"⟩ ⟨"", ""⟩)) := by
    refine ⟨fun token => token.elim ["a", "b"] fun _ => ["b"], by decide, ?_⟩
    rintro (_ | _) result ⟨⟩
    exacts [⟨List.cons_ne_nil _ _, rfl⟩, rfl]
  have hlen : (twoKeyBucket.listing ⟨"", ""⟩).length < 3 :=
    (List.length_filter_le _ _).trans_lt (by decide)
  exact ⟨hpages, hlen, listBlobs_eq_listing twoPageListObjectsV2 twoKeyBucket ⟨"bucket"⟩
    ⟨"", ""⟩ hpages 3 hlen⟩

end S3BlobStorageClient

/-! ## Cloud Storage -/

namespace GcpBlobStorageClient

/-- The body of the loop of `ListBlobs`: an item that failed is logged and skipped, and so is the
object named `start_after`, since `StartOffset` is inclusive. -/
def collectKey (startAfter : String) (keys : List String) : Except Status String → List String
  | .error _ => keys
  | .ok name => if name = startAfter then keys else keys ++ [name]

/-- `GcpBlobStorageClient::ListBlobs`, with `ListObjects(bucket, Prefix(prefix),
StartOffset(start_after))` given as the items its range yields. -/
def listBlobs (listObjects : String → String → String → List (Except Status String))
    (location : DataLocation) (options : ListOptions) : Except Status (List String) :=
  let items := listObjects location.bucket options.keyPrefix options.startAfter
  if items.isEmpty then .ok []
  else .ok (items.foldl (collectKey options.startAfter) []).mergeSort

/-- The names a range yielded, leaving out the items that failed. -/
def names (items : List (Except Status String)) : List String :=
  items.filterMap Except.toOption

/-- `ListObjects(bucket, Prefix(keyPrefix), StartOffset(startOffset))` lists objects of the
bucket: each name it yields, once, is a key of the bucket that starts with the prefix and is not
before the offset. Items may fail. -/
def ListsObjects (bucket : Bucket) (keyPrefix startOffset : String)
    (items : List (Except Status String)) : Prop :=
  (names items).Nodup ∧
    ∀ name ∈ names items,
      name ∈ bucket.keys ∧ hasKeyPrefix name keyPrefix ∧ startOffset ≤ name

theorem foldl_collectKey (startAfter : String) (items : List (Except Status String))
    (keys : List String) :
    items.foldl (collectKey startAfter) keys =
      keys ++ (names items).filter (· ≠ startAfter) := by
  induction items generalizing keys with
  | nil => simp [names]
  | cons item items ih =>
    cases item with
    | error error => simpa [names, collectKey, Except.toOption] using ih keys
    | ok name =>
      by_cases h : name = startAfter <;> simp [names, collectKey, Except.toOption, h, ih]

/-- Sorting the names a range yielded, less the start name, gives the listing restricted to
them. -/
theorem mergeSort_filter_names {bucket : Bucket} {options : ListOptions}
    {items : List (Except Status String)}
    (h : ListsObjects bucket options.keyPrefix options.startAfter items) :
    ((names items).filter (· ≠ options.startAfter)).mergeSort =
      (bucket.listing options).filter (· ∈ names items) := by
  refine List.eq_of_perm_of_sorted (r := (· ≤ ·)) ?_ (List.sorted_mergeSort' _)
    (((bucket.sorted_listing options).filter _).imp le_of_lt)
  refine (List.mergeSort_perm _ _).trans ((List.perm_ext_iff_of_nodup (h.1.filter _)
    (((bucket.sorted_listing options).filter _).nodup)).2 fun name => ?_)
  simp only [List.mem_filter, Bucket.mem_listing, decide_eq_true_eq]
  constructor
  · rintro ⟨hname, hne⟩
    obtain ⟨hkey, hprefix, hle⟩ := h.2 name hname
    exact ⟨⟨hkey, hprefix, lt_of_le_of_ne hle (Ne.symm hne)⟩, hname⟩
  · rintro ⟨⟨-, -, hlt⟩, hname⟩
    exact ⟨hname, ne_of_gt hlt⟩

/-- The early return on an empty range is the general case: `ListBlobs` sorts the names the
range yielded, less the start name. -/
theorem listBlobs_eq_mergeSort
    (listObjects : String → String → String → List (Except Status String))
    (location : DataLocation) (options : ListOptions) :
    listBlobs listObjects location options =
      .ok ((names (listObjects location.bucket options.keyPrefix options.startAfter)).filter
        (· ≠ options.startAfter)).mergeSort := by
  rw [listBlobs]
  split_ifs with hempty
  · simp [List.isEmpty_iff.1 hempty, names]
  · rw [foldl_collectKey, List.nil_append]

/-- **Listing on Cloud Storage.** Against a `ListObjects` that lists objects of the bucket,
`ListBlobs` always succeeds: items that failed are dropped without a trace. It returns the keys
of the bucket with the prefix after `start_after` that the range yielded, in ascending order. -/
theorem listBlobs_eq_filter_listing
    (listObjects : String → String → String → List (Except Status String)) (bucket : Bucket)
    (location : DataLocation) (options : ListOptions)
    (h : ListsObjects bucket options.keyPrefix options.startAfter
      (listObjects location.bucket options.keyPrefix options.startAfter)) :
    listBlobs listObjects location options =
      .ok ((bucket.listing options).filter
        (· ∈ names (listObjects location.bucket options.keyPrefix options.startAfter))) := by
  rw [listBlobs_eq_mergeSort, mergeSort_filter_names h]

/-- A bucket with the keys `"a"`, `"ab"` and `"b"`. -/
def threeKeyBucket : Bucket :=
  ⟨["a", "ab", "b"], by simp [String.lt_iff_toList_lt]; decide, by decide⟩

/-- A range over the objects named from `"a"` on with the prefix `"a"`, whose second item
failed. -/
def failingRange (_bucket _keyPrefix _startOffset : String) : List (Except Status String) :=
  [.ok "a", .error (internalError "unavailable"), .ok "ab"]

theorem listsObjects_failingRange :
    ListsObjects threeKeyBucket "a" "a" (failingRange "bucket" "a" "a") := by
  refine ⟨by decide, ?_⟩
  simp [names, failingRange, Except.toOption, threeKeyBucket, hasKeyPrefix,
    String.le_iff_toList_le]
  decide

theorem listBlobs_eq_filter_listing_failingRange :
    ListsObjects threeKeyBucket "a" "a" (failingRange "bucket" "a" "a") ∧
      listBlobs failingRange ⟨"bucket"⟩ ⟨"a", "a"⟩ =
        .ok ((threeKeyBucket.listing ⟨"a", "a"⟩).filter
          (· ∈ names (failingRange "bucket" "a" "a"))) :=
  ⟨listsObjects_failingRange, listBlobs_eq_filter_listing failingRange threeKeyBucket
    ⟨"bucket"⟩ ⟨"a", "a"⟩ listsObjects_failingRange⟩

end GcpBlobStorageClient

/-! ## The two stores -/

open S3BlobStorageClient GcpBlobStorageClient in
/-- **The two stores agree.** When `ListObjectsV2` pages the keys its request asks for, and the
range of `ListObjects` lists objects of the bucket and yields every key of the listing, the S3
and Cloud Storage clients return the same keys, unless an S3 page fails. -/
theorem s3_listBlobs_eq_gcp_listBlobs
    (listObjectsV2 : ListObjectsV2Request → Except Status ListObjectsV2Result)
    (listObjects : String → String → String → List (Except Status String)) (bucket : Bucket)
    (location : DataLocation) (options : ListOptions)
    (hpages : PagesListing listObjectsV2 (listObjectsV2Request location options)
      (listObjectsV2Keys bucket (listObjectsV2Request location options)))
    (hobjects : ListsObjects bucket options.keyPrefix options.startAfter
      (listObjects location.bucket options.keyPrefix options.startAfter))
    (hall : ∀ key ∈ bucket.listing options,
      key ∈ names (listObjects location.bucket options.keyPrefix options.startAfter))
    (fuel : Nat) (hfuel : (bucket.listing options).length < fuel) :
    S3BlobStorageClient.listBlobs listObjectsV2 fuel location options =
        some (GcpBlobStorageClient.listBlobs listObjects location options) ∨
      ∃ token error, listObjectsV2
          { listObjectsV2Request location options with continuationToken := token } =
            .error error ∧
        S3BlobStorageClient.listBlobs listObjectsV2 fuel location options =
          some (.error error) := by
  obtain ⟨rest, hnone, hfits⟩ := hpages
  rw [listObjectsV2Keys_listObjectsV2Request] at hnone
  rw [listBlobs_eq_mergeSort, mergeSort_filter_names hobjects,
    List.filter_eq_self.2 fun key hkey => decide_eq_true (hall key hkey)]
  have h := listBlobsLoop_of_pages hfits fuel none [] (hnone ▸ hfuel)
  rwa [hnone] at h

/-- A `ListObjectsV2` that lists `"ab"` on a single page. -/
def onePageListObjectsV2 (_request : S3BlobStorageClient.ListObjectsV2Request) :
    Except Status S3BlobStorageClient.ListObjectsV2Result :=
  .ok ⟨["ab"], false, ""⟩

open S3BlobStorageClient GcpBlobStorageClient in
theorem s3_listBlobs_eq_gcp_listBlobs_threeKeys :
    PagesListing onePageListObjectsV2 (listObjectsV2Request ⟨"bucket"⟩ ⟨"a", "a"⟩)
        (listObjectsV2Keys threeKeyBucket (listObjectsV2Request ⟨"bucket"⟩ ⟨"a", "a"⟩)) ∧
      ListsObjects threeKeyBucket "a" "a" (failingRange "bucket" "a" "a") ∧
      (∀ key ∈ threeKeyBucket.listing ⟨"a", "a"⟩,
        key ∈ names (failingRange "bucket" "a" "a")) ∧
      (threeKeyBucket.listing ⟨"a", "a"⟩).length < 4 ∧
      (S3BlobStorageClient.listBlobs onePageListObjectsV2 4 ⟨"bucket"⟩ ⟨"a", "a"⟩ =
          some (GcpBlobStorageClient.listBlobs failingRange ⟨"bucket"⟩ ⟨"a", "a"⟩) ∨
        ∃ token error, onePageListObjectsV2
            { listObjectsV2Request ⟨"bucket"⟩ ⟨"a", "a"⟩ with continuationToken := token } =
              .error error ∧
          S3BlobStorageClient.listBlobs onePageListObjectsV2 4 ⟨"bucket"⟩ ⟨"a", "a"⟩ =
            some (.error error)) := by
  have hlisting : threeKeyBucket.listing ⟨"a", "a"⟩ = ["ab"] := by
    simp [Bucket.listing, threeKeyBucket, hasKeyPrefix, String.lt_iff_toList_lt]
    decide
  have hpages : PagesListing onePageListObjectsV2
      (listObjectsV2Request ⟨"bucket"⟩ ⟨"a", "a"⟩)
      (listObjectsV2Keys threeKeyBucket (listObjectsV2Request ⟨"bucket"⟩ ⟨"a", "a"⟩)) := by
    refine ⟨fun _ => ["ab"], ?_, fun _ _ h => by cases h; rfl⟩
    rw [listObjectsV2Keys_listObjectsV2Request, hlisting]
  have hall : ∀ key ∈ threeKeyBucket.listing ⟨"a", "a"⟩,
      key ∈ names (failingRange "bucket" "a" "a") := by
    rw [hlisting]
    decide
  have hfuel : (threeKeyBucket.listing ⟨"a", "a"⟩).length < 4 := by
    rw [hlisting]
    decide
  exact ⟨hpages, listsObjects_failingRange, hall, hfuel, s3_listBlobs_eq_gcp_listBlobs
    onePageListObjectsV2 failingRange threeKeyBucket ⟨"bucket"⟩ ⟨"a", "a"⟩ hpages
    listsObjects_failingRange hall 4 hfuel⟩

end KvServer
