-- The search for the index of data packs: a cursor that fetches the found indexes page by
-- page, and the query that reads the data packs through the cursor, some at each call.
import Mathlib.Tactic.Common
import Chaos.OrderedScan

namespace chaos.data_service.db_system

/-! ## The database -/

/-- A `uint64_t` read as a `long long`. -/
def toLongLong (x : UInt64) : Int := if x.toNat < 2 ^ 63 then x.toNat else x.toNat - 2 ^ 64

/-- A `long long` read as a `uint64_t`. -/
def ofLongLong (x : Int) : UInt64 := UInt64.ofNat (x % 2 ^ 64).toNat

/-- An index document. `acq_ts_numeric` is the time stamp as a `long long`. -/
structure IndexDocument where
  did : String
  ds_type : UInt32
  querable : Bool
  acq_ts_numeric : Int
  block_vfs_domain : String
  block_vfs_path : String
  offset : UInt64
  datapack_size : UInt32
  deriving DecidableEq

/-- The collection of the indexes. The database has a unique index on the device, the type and
the time stamp, and gives the documents of one device and type in its order. `findNOther` is
what the client gives for a number of documents that is not positive. -/
structure IndexCollection where
  documents : List IndexDocument
  ordered : documents.Pairwise fun a b =>
    a.did = b.did → a.ds_type = b.ds_type → a.acq_ts_numeric < b.acq_ts_numeric
  longLong : ∀ d ∈ documents, -2 ^ 63 ≤ d.acq_ts_numeric ∧ d.acq_ts_numeric < 2 ^ 63
  findNOther : Int → List IndexDocument → List IndexDocument

structure DataPackIndexQuery where
  did : String
  ds_type : UInt32
  start_ts : UInt64
  end_ts : UInt64
  deriving DecidableEq

/-- The querable documents of the device and the type of a query. -/
def selected (db : IndexCollection) (q : DataPackIndexQuery) : List IndexDocument :=
  db.documents.filter fun d => decide (d.did = q.did ∧ d.ds_type = q.ds_type ∧ d.querable = true)

/-- The documents from the start time of the query on. -/
def since (db : IndexCollection) (q : DataPackIndexQuery) : List IndexDocument :=
  (selected db q).filter fun d => decide (toLongLong q.start_ts ≤ d.acq_ts_numeric)

/-- The documents that `idxSearchResultCountDataPack` counts. -/
def found (db : IndexCollection) (q : DataPackIndexQuery) : List IndexDocument :=
  (since db q).filter fun d => decide (d.acq_ts_numeric ≤ toLongLong q.end_ts)

/-- `findN`: the number of documents is an `int`. -/
def findN (db : IndexCollection) (docs : List IndexDocument) (nToReturn : UInt32) :
    List IndexDocument :=
  if 0 < nToReturn.toInt32.toInt then docs.take nToReturn.toNat
  else db.findNOther nToReturn.toInt32.toInt docs

/-! ## The cursor -/

structure MongoDBIndexCursor where
  query : DataPackIndexQuery
  element_found : UInt64
  number_of_element_fetched : UInt64
  result_page_dimension : UInt32
  last_max_ts_searched : UInt64
  number_of_returned_element_in_page : UInt32
  fetched_element_page : List IndexDocument
  deriving DecidableEq

namespace MongoDBIndexCursor

/-- A start or an end time of 0 stands for the first or the last time of the device. -/
def completeQuery (db : IndexCollection) (q : DataPackIndexQuery) :
    Except Int DataPackIndexQuery :=
  if q.start_ts = 0 ∨ q.end_ts = 0 then
    match (selected db q).head?, (selected db q).getLast? with
    | some first, some last =>
      .ok { q with
        start_ts := if q.start_ts = 0 then ofLongLong first.acq_ts_numeric else q.start_ts
        end_ts := if q.end_ts = 0 then ofLongLong last.acq_ts_numeric else q.end_ts }
    | _, _ => .error (-1000)
  else .ok q

/-- `idxStartSearchDataPack`: the cursor on a query, with its number of found elements. -/
def start (db : IndexCollection) (q : DataPackIndexQuery) (result_page_dimension : UInt32) :
    Except Int MongoDBIndexCursor :=
  match completeQuery db q with
  | .error err => .error err
  | .ok q =>
    if (found db q).length = 0 then .error (-1)
    else .ok
      { query := q
        element_found := UInt64.ofNat (found db q).length
        number_of_element_fetched := 0
        result_page_dimension := result_page_dimension
        last_max_ts_searched := 0
        number_of_returned_element_in_page := 0
        fetched_element_page := [] }

def hasNext (c : MongoDBIndexCursor) : Bool :=
  decide (c.number_of_returned_element_in_page.toNat ≠ c.fetched_element_page.length)

/-- `getIndex`: the next element of the page, of which the code copies the location and the size. -/
def getIndex (c : MongoDBIndexCursor) : Option (IndexDocument × MongoDBIndexCursor) :=
  if c.hasNext then
    c.fetched_element_page[c.number_of_returned_element_in_page.toNat]?.map fun d =>
      (d, { c with
        number_of_returned_element_in_page := c.number_of_returned_element_in_page + 1 })
  else none

/-- The start time of the next page. -/
def nextStart (c : MongoDBIndexCursor) : UInt64 :=
  if c.last_max_ts_searched ≠ 0 then c.last_max_ts_searched + 1 else c.query.start_ts

/-- How many documents the next page asks for. -/
def toFetch (c : MongoDBIndexCursor) : UInt32 :=
  let left_to_fetch := (c.element_found - c.number_of_element_fetched).toUInt32
  if left_to_fetch < c.result_page_dimension then left_to_fetch else c.result_page_dimension

/-- `performNextPagedQuery`. The page of the next query has no end time. The code reads the
last element of the page with no test, so that an empty page is `none`. -/
def performNextPagedQuery (c : MongoDBIndexCursor) (db : IndexCollection) :
    Option MongoDBIndexCursor :=
  let c := { c with number_of_returned_element_in_page := 0, fetched_element_page := [] }
  if c.query.end_ts ≤ c.last_max_ts_searched then some c
  else
    let page := findN db (since db { c.query with start_ts := c.nextStart }) c.toFetch
    page.getLast?.map fun last =>
      { c with
        number_of_element_fetched :=
          c.number_of_element_fetched + (UInt32.ofNat page.length).toUInt64
        last_max_ts_searched := ofLongLong last.acq_ts_numeric
        fetched_element_page := page }

/-- Take the elements of each page with `getIndex`, and fetch the next page where one is drained,
until the number of the fetched elements is the number of the found ones. -/
def readIndexes (db : IndexCollection) : Nat → MongoDBIndexCursor → Option (List IndexDocument)
  | 0, _ => none
  | fuel + 1, c =>
    if c.hasNext then
      c.getIndex.bind fun r => (readIndexes db fuel r.2).map (r.1 :: ·)
    else if c.number_of_element_fetched = c.element_found then some []
    else (c.performNextPagedQuery db).bind (readIndexes db fuel)

end MongoDBIndexCursor

end chaos.data_service.db_system

namespace chaos.data_service.vfs

open db_system

/-! ## The reading -/

/-- The loop of `readDataPackPage` over the elements that the page still has: how many it takes
from the cursor, and the ones whose data pack it reads. `readable` says which data packs the
storage can read; the loop ends at the first that it cannot. -/
def readLoop (readable : IndexDocument → Bool) : List IndexDocument → UInt32 →
    Nat × List IndexDocument
  | [], _ => (0, [])
  | d :: ds, limit_to =>
    if readable d then
      if limit_to - 1 = 0 then (1, [d])
      else
        let r := readLoop readable ds (limit_to - 1)
        (r.1 + 1, d :: r.2)
    else (1, [])

/-- `readDataPackPage`: the cursor after the call, and the elements that were read. -/
def readDataPackPage (db : IndexCollection) (readable : IndexDocument → Bool)
    (c : MongoDBIndexCursor) (limit_to : UInt32) :
    Option (MongoDBIndexCursor × List IndexDocument) :=
  if c.element_found = c.number_of_element_fetched then some (c, [])
  else
    (if c.hasNext then some c else c.performNextPagedQuery db).map fun c =>
      let r := readLoop readable
        (c.fetched_element_page.drop c.number_of_returned_element_in_page.toNat) limit_to
      ({ c with number_of_returned_element_in_page :=
          c.number_of_returned_element_in_page + UInt32.ofNat r.1 }, r.2)

/-- Call `readDataPackPage` until it yields no element, at most `fuel` times, and put the pages
together. -/
def readAll (db : IndexCollection) (readable : IndexDocument → Bool) (limit_to : UInt32) :
    Nat → MongoDBIndexCursor → Option (List IndexDocument)
  | 0, _ => none
  | fuel + 1, c =>
    match readDataPackPage db readable c limit_to with
    | none => none
    | some (_, []) => some []
    | some (c, packs) => (readAll db readable limit_to fuel c).map (packs ++ ·)

end chaos.data_service.vfs
