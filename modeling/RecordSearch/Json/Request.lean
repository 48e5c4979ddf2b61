import RecordSearch.Json.Criterion
import RecordSearch.Json.Reader
import RecordSearch.Request

/-! Requests in documents.

    A request is an object; the typed filters of the shape stand beside the general directives. They
    are read in two turns. First every member is gone through: directives are judged, and all others
    are kept, for which they may nest no deeper than the reader can. Then the typed filters are read
    from what was kept. What belongs to neither is passed over. -/

namespace RecordSearch.Request

open Json

/-- How deep a member may nest to be kept: one level less than the 127 that a text may have. -/
def keptDepth : Nat := 126

/-- The general directives, each with what it has to be. -/
def directives : List (String × (Json → Decoded Unit)) :=
  [("search", check (decodeOption decodeText)),
   ("page", check (decodeOption (decodeInt .bits64))),
   ("pageSize", check (decodeOption (decodeInt .bits64))),
   ("sortBy", check (decodeOption decodeText)),
   ("sortOrder", check (decodeOption decodeText)),
   ("filters", check (decodeArray Criterion.codec.decode))]

/-- What a member has to be, if it is a general directive. -/
def directive (name : String) : Option (Json → Decoded Unit) := directives.lookup name

/-- The members that are no directives. -/
def kept (ms : Members) : Members := ms.filter fun m => (directive m.1).isNone

variable {δ : Type}

/-- Reads a request with typed filters. -/
def decode (typed : Codec δ) : Json → Decoded (Request δ)
  | object ms => do
    walk directive (keepable keptDepth) [] ms
    let search ← fieldOption ms "search" decodeText
    let page ← fieldOption ms "page" (decodeInt .bits64)
    let pageSize ← fieldOption ms "pageSize" (decodeInt .bits64)
    let sortBy ← fieldOption ms "sortBy" decodeText
    let sortOrder ← fieldOption ms "sortOrder" decodeText
    let filters ← fieldOr ms "filters" (decodeArray Criterion.codec.decode) []
    let domain ← typed.decode (object (kept ms))
    pure ⟨search, page.map .ofInt, pageSize.map .ofInt, sortBy, sortOrder, filters, domain⟩
  | _ => .error .mismatch

/-- Reads the text of a request: the document, and nothing but space behind it. -/
def read (typed : Codec δ) (s : String) : Decoded (Request δ) := do
  let (v, complete) := Json.parse s
  let r ← decode typed v
  if complete then pure r else .error .mismatch

/-- The document of a request. Directives that are not given are left out, except for the list of
    filters. -/
def encode (typed : Codec δ) (r : Request δ) : Json :=
  object (memberIfSome "search" text r.search ++
    memberIfSome "page" (fun n => integer n.toInt) r.page ++
    memberIfSome "pageSize" (fun n => integer n.toInt) r.pageSize ++
    memberIfSome "sortBy" text r.sortBy ++
    memberIfSome "sortOrder" text r.sortOrder ++
    ("filters", array (r.filters.map Criterion.codec.encode)) :: typed.members r.domain)

end RecordSearch.Request
