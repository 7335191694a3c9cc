import Tenancy.Gateway
import Tenancy.Http.Exchange
import Tenancy.Json.Record

/-!
# Paging

A collection comes in pages, each naming the next one. All values of a page are visited before the
next page is asked for.
-/

namespace Tenancy.Http

structure Page where
  next : Option String
  values : List Json

namespace Page

def shape : Json.Shape (Option (Option String) × Option (List Json)) Page where
  title := "PaginatedResources"
  fields := [
    (Json.Field.single "next_url" [] false (Json.asOption Json.asString)).inFst,
    (Json.Field.single "resources" [] false (Json.asList Json.asJson)).inSnd]
  empty := (none, none)
  finish := fun r => .ok ⟨r.1.getD none, r.2.getD []⟩

def ofJson (label url : String) (v : Json) : Except Fault Page :=
  (shape.decode v).mapError fun m =>
    .internal s!"failed to decode {label} page from {url}: {m.message}"

/-- A link stands for itself if it is absolute, else it is taken under the base address. -/
def link (base path : String) : String :=
  if IsAbsolute path then path else Text.dropSlashes base ++ path

/-- Where the next page is; a blank link leads nowhere. -/
def nextUrl (base : String) (p : Page) : Option String :=
  (p.next.filter fun s => Text.trim s ≠ "").map (link base)

end Page

def get (label url token : String) : Exchanging Json := do
  let r ← Request.of? .get url token none
  sendForJson label r

/-- Gets one page. -/
def getPage (label token url : String) : Exchanging Page := do
  let document ← get label url token
  Page.ofJson label url document

/-- Visits the pages from `url` on; gives up when there are more than `limit`. -/
def listFrom (label base token : String) (visit : Visitor) (limit : Nat) (seen : List Json)
    (url : String) : Program Message (fun _ => Reply) (Option Listing) :=
  match limit with
  | 0 => pure none
  | limit + 1 => do
    match ← (getPage label token url).run with
    | .error f => pure (some ⟨seen, .error f⟩)
    | .ok page =>
      match visit.walk seen page.values with
      | (seen, some ending) => pure (some ⟨seen, ending⟩)
      | (seen, none) =>
        match page.nextUrl base with
        | none => pure (some ⟨seen, .ok ()⟩)
        | some next =>
          if next = url then
            let f : Fault := .internal s!"{label} pagination did not advance past {url}"
            pure (some ⟨seen, .error f⟩)
          else listFrom label base token visit limit seen next

def list (limit : Nat) (label base token path : String) (visit : Visitor) :
    Program Message (fun _ => Reply) (Option Listing) :=
  listFrom label base token visit limit [] (Page.link base path)

/-- Performs a request without a look at the answer. -/
def perform (label : String) (r : Request) : Exchanging Unit := do
  let _ ← send label r

/-- Answers a call over HTTP. -/
def answer (limit : Nat) : (c : Call) → Program Message (fun _ => Reply) (Option c.Reply)
  | ⟨service, .list base token path visit⟩ => list limit service.name base token path visit
  | ⟨service, .get url token⟩ => some <$> (get service.name url token).run
  | ⟨service, .perform r⟩ => some <$> (perform service.name r).run
  | ⟨service, .performJson r⟩ => some <$> (sendForJson service.name r).run

/-- The exchanges of a run; none where a listing was given up. -/
def exchanges (limit : Nat) (c : Calling α) :
    Program Message (fun _ => Reply) (Option (Except Fault α)) :=
  c.run.throughSome (answer limit)

end Tenancy.Http
