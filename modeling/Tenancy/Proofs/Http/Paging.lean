import Mathlib.Data.List.Chain
import Tenancy.Http.Paging
import Tenancy.Proofs.Http.Exchange
import Tenancy.Proofs.Visit

/-!
# Listings page by page

Which pages a listing reads and what it visits. A run reads pages, each where the one before
points, visits their values in order and ends in one of six ways (`Conclusion`); in every one of
them the visitor has gone on at all values of the pages before the last.
-/

namespace Tenancy.Http

open Program

/-- What is sent for one page. -/
def pageMessage (token url : String) : Message :=
  ⟨.get, url, bearer token, none⟩

/-- A page can only be asked for under an absolute url that names an address. -/
def CanAsk (token url : String) : Prop :=
  IsAbsolute url ∧ CanSend (pageMessage token url)

/-- A successful answer that says a page. -/
def Reply.Holds (reply : Reply) (p : Page) : Prop :=
  ∃ v, reply.Says v ∧ Page.shape.decode v = .ok p

theorem settles_get {label token url : String} {es : List (Event Message fun _ => Reply)}
    {x : Except Fault Json} (h : (get label url token).run.Runs es x) :
    Settles (CanAsk token url) (pageMessage token url) Reply.Says es x := by
  rw [get, run_bind, run_lift] at h
  by_cases hurl : IsAbsolute url
  · simp only [Request.of?, hurl, dite_true] at h
    have hm : Message.of ⟨.get, url, token, none, hurl⟩ = pageMessage token url := rfl
    rw [CanAsk, ← hm, and_iff_right hurl]
    exact settles_sendForJson h
  · simp only [Request.of?, hurl, dite_false] at h
    obtain ⟨rfl, rfl⟩ := runs_done_iff.mp h
    exact .inl ⟨fun hcan => hurl hcan.1, rfl, _, rfl⟩

theorem settles_getPage {label token url : String} {es : List (Event Message fun _ => Reply)}
    {x : Except Fault Page} (h : (getPage label token url).run.Runs es x) :
    Settles (CanAsk token url) (pageMessage token url) Reply.Holds es x := by
  obtain ⟨y, hy, rfl⟩ := runs_run_bind_lift_iff.mp h
  refine ((settles_get hy).bind _).congr fun reply p => exists_congr fun v => ?_
  refine and_congr_right fun _ => ?_
  exact mapError_eq_ok_iff

/-- A page that was read, with the url it was asked for under and the answer that held it. -/
structure Reading where
  url : String
  reply : Reply
  page : Page

/-- The values of pages, in order. -/
def values (reads : List Reading) : List Json :=
  reads.flatMap (·.page.values)

/-- The url to ask for once some pages have been read: the first one, or where the last page
points. -/
inductive Awaits (base first : String) (reads : List Reading) : String → Prop where
  | first (unread : reads = []) : Awaits base first reads first
  | next {r : Reading} {url : String} (last : reads.getLast? = some r)
      (next : r.page.nextUrl base = some url) (advances : url ≠ r.url) : Awaits base first reads url

/-- How a listing ends that has read some pages; `left` is what it asked for without reading a page,
and `seen` is what had been visited before the pages. -/
inductive Conclusion (label base token first : String) (visit : Visitor) (seen : List Json)
    (reads : List Reading) : List ((_ : Message) × Reply) → Listing → Prop where
  /-- The visitor ended it, at a value of the last page. -/
  | visitor {before after : List Json} {v : Json} {e : Except Fault Unit}
      (found : values reads = before ++ v :: after) (last : values reads.dropLast <+: before)
      (goesOn : visit.GoesOn seen before) (ends : visit.Ends (seen ++ before) v e) :
      Conclusion label base token first visit seen reads [] ⟨seen ++ before ++ [v], e⟩
  | unasked {url : String} {f : Fault} (goesOn : visit.GoesOn seen (values reads))
      (awaits : Awaits base first reads url) (cannot : ¬ CanAsk token url) :
      Conclusion label base token first visit seen reads [] ⟨seen ++ values reads, .error f⟩
  | unread {url : String} {reply : Reply} {f : Fault} (goesOn : visit.GoesOn seen (values reads))
      (awaits : Awaits base first reads url) (none : ∀ p, ¬ reply.Holds p) :
      Conclusion label base token first visit seen reads [⟨pageMessage token url, reply⟩]
        ⟨seen ++ values reads, .error f⟩
  /-- The last page points at itself. -/
  | stuck {r : Reading} (goesOn : visit.GoesOn seen (values reads))
      (last : reads.getLast? = some r) (next : r.page.nextUrl base = some r.url) :
      Conclusion label base token first visit seen reads []
        ⟨seen ++ values reads,
          .error (.internal s!"{label} pagination did not advance past {r.url}")⟩
  | exhausted {r : Reading} (goesOn : visit.GoesOn seen (values reads))
      (last : reads.getLast? = some r) (next : r.page.nextUrl base = none) :
      Conclusion label base token first visit seen reads [] ⟨seen ++ values reads, .ok ()⟩

theorem values_cons (r : Reading) (reads : List Reading) :
    values (r :: reads) = r.page.values ++ values reads := rfl

theorem values_single (r : Reading) : values [r] = r.page.values := by
  simp [values]

section Runs

variable {label base token first : String} {visit : Visitor} {seen : List Json}

theorem getLast?_cons_of_eq_some {r r' : Reading} {reads : List Reading}
    (h : reads.getLast? = some r') : (r :: reads).getLast? = some r' := by
  rw [List.getLast?_cons, h]
  rfl

theorem Awaits.cons {r : Reading} {reads : List Reading} {next url : String}
    (hnext : r.page.nextUrl base = some next) (hne : next ≠ r.url)
    (h : Awaits base next reads url) :
    Awaits base first (r :: reads) url := by
  cases h with
  | first unread =>
    subst unread
    exact .next rfl hnext hne
  | next last next advances => exact .next (getLast?_cons_of_eq_some last) next advances

/-- A page at all of whose values the visitor goes on, in front of a listing from the next page. -/
theorem Conclusion.cons {r : Reading} {reads : List Reading} {next : String}
    {left : List ((_ : Message) × Reply)} {l : Listing} (hnext : r.page.nextUrl base = some next)
    (hne : next ≠ r.url) (hgo : visit.GoesOn seen r.page.values)
    (h : Conclusion label base token next visit (seen ++ r.page.values) reads left l) :
    Conclusion label base token first visit seen (r :: reads) left l := by
  cases h with
  | @visitor before after v e found last goesOn ends =>
    have hreads : reads ≠ [] := by
      rintro rfl
      simp [values] at found
    rw [List.append_assoc seen] at ends ⊢
    have hfound : values (r :: reads) = (r.page.values ++ before) ++ v :: after := by
      rw [values_cons, found, List.append_assoc]
    have hlast : values (r :: reads).dropLast <+: r.page.values ++ before := by
      rw [List.dropLast_cons_of_ne_nil hreads, values_cons]
      exact (List.prefix_append_right_inj _).mpr last
    exact .visitor hfound hlast (Visitor.goesOn_append.mpr ⟨hgo, goesOn⟩) ends
  | unasked goesOn awaits cannot =>
    rw [List.append_assoc, ← values_cons]
    exact .unasked (Visitor.goesOn_append.mpr ⟨hgo, goesOn⟩) (awaits.cons hnext hne) cannot
  | unread goesOn awaits none =>
    rw [List.append_assoc, ← values_cons]
    exact .unread (Visitor.goesOn_append.mpr ⟨hgo, goesOn⟩) (awaits.cons hnext hne) none
  | stuck goesOn last next =>
    rw [List.append_assoc, ← values_cons]
    exact .stuck (Visitor.goesOn_append.mpr ⟨hgo, goesOn⟩)
      (getLast?_cons_of_eq_some last) next
  | exhausted goesOn last next =>
    rw [List.append_assoc, ← values_cons]
    exact .exhausted (Visitor.goesOn_append.mpr ⟨hgo, goesOn⟩)
      (getLast?_cons_of_eq_some last) next

theorem Conclusion.visited_prefix {reads : List Reading} {left : List ((_ : Message) × Reply)}
    {l : Listing} (h : Conclusion label base token first visit [] reads left l) :
    l.visited <+: values reads := by
  cases h with
  | visitor found last goesOn ends => simp [found]
  | unasked | unread | stuck | exhausted => simp

/-- Pages read one after the other from a url on, each where the one before points. -/
structure Trail (base token first : String) (reads : List Reading) : Prop where
  holds : ∀ r ∈ reads, CanAsk token r.url ∧ r.reply.Holds r.page
  starts : ∀ r ∈ reads.head?, r.url = first
  linked : reads.IsChain fun r r' => r.page.nextUrl base = some r'.url ∧ r'.url ≠ r.url

theorem Trail.nil : Trail base token first [] where
  holds := by simp
  starts := by simp
  linked := by simp

theorem Trail.single {r : Reading} (hcan : CanAsk token r.url) (hr : r.reply.Holds r.page) :
    Trail base token r.url [r] where
  holds := by simpa using ⟨hcan, hr⟩
  starts := by simp
  linked := by simp

theorem Trail.cons {r : Reading} {reads : List Reading} {next : String}
    (hcan : CanAsk token r.url) (hr : r.reply.Holds r.page)
    (hnext : r.page.nextUrl base = some next) (hne : next ≠ r.url)
    (h : Trail base token next reads) : Trail base token r.url (r :: reads) where
  holds := List.forall_mem_cons.mpr ⟨⟨hcan, hr⟩, h.holds⟩
  starts := by simp
  linked := by
    refine List.isChain_cons.mpr ⟨fun r' hr' => ?_, h.linked⟩
    rw [h.starts r' hr']
    exact ⟨hnext, hne⟩

/-- What has been asked and answered when some pages were read. -/
def Reading.exchange (token : String) (r : Reading) : (_ : Message) × Reply :=
  ⟨pageMessage token r.url, r.reply⟩

/-- What a listing does from a url on: it reads pages, asks for at most one thing more and ends. -/
def Lists (label base token first : String) (visit : Visitor) (seen : List Json)
    (asked : List ((_ : Message) × Reply)) (l : Listing) : Prop :=
  ∃ reads left, asked = reads.map (Reading.exchange token) ++ left ∧
    Trail base token first reads ∧ Conclusion label base token first visit seen reads left l

theorem Lists.cons {r : Reading} {next : String} {asked : List ((_ : Message) × Reply)}
    {l : Listing} (hcan : CanAsk token r.url) (hr : r.reply.Holds r.page)
    (hnext : r.page.nextUrl base = some next) (hne : next ≠ r.url)
    (hgo : visit.GoesOn seen r.page.values)
    (h : Lists label base token next visit (seen ++ r.page.values) asked l) :
    Lists label base token r.url visit seen (r.exchange token :: asked) l := by
  obtain ⟨reads, left, rfl, trail, conclusion⟩ := h
  exact ⟨r :: reads, left, rfl, trail.cons hcan hr hnext hne, conclusion.cons hnext hne hgo⟩

/-- A listing that ends with the page it has just read. -/
theorem Lists.single {r : Reading} {l : Listing} (hcan : CanAsk token r.url)
    (hr : r.reply.Holds r.page)
    (conclusion : Conclusion label base token r.url visit seen [r] [] l) :
    Lists label base token r.url visit seen [r.exchange token] l :=
  ⟨[r], [], rfl, .single hcan hr, conclusion⟩

/-- A page that cannot be had ends a listing. -/
theorem lists_of_not_got {url : String} {f : Fault} {es : List (Event Message fun _ => Reply)}
    (h : Settles (CanAsk token url) (pageMessage token url) Reply.Holds es (.error f)) :
    Lists label base token url visit seen (Event.questions es) ⟨seen, .error f⟩ := by
  rcases h with ⟨hcan, hes, -⟩ | ⟨hcan, reply, hes, hx⟩
  · have hend : Conclusion label base token url visit seen [] [] ⟨seen ++ values [], .error f⟩ :=
      .unasked trivial (.first rfl) hcan
    exact ⟨[], [], hes, .nil, by simpa [values] using hend⟩
  · have hnone : ∀ p, ¬ reply.Holds p := fun p hp => nomatch (hx p).mpr hp
    have hend : Conclusion label base token url visit seen [] [⟨pageMessage token url, reply⟩]
        ⟨seen ++ values [], .error f⟩ := .unread trivial (.first rfl) hnone
    exact ⟨[], _, hes, .nil, by simpa [values] using hend⟩

/-- A visitor that does not go on at some value of a page ends the listing there. -/
theorem lists_of_walk_eq_some {r : Reading} {seen' : List Json} {e : Except Fault Unit}
    (hcan : CanAsk token r.url) (hr : r.reply.Holds r.page)
    (h : visit.walk seen r.page.values = (seen', some e)) :
    Lists label base token r.url visit seen [r.exchange token] ⟨seen', e⟩ := by
  obtain ⟨before, v, after, hvalues, rfl, hgo, hends⟩ := Visitor.of_walk_eq_some h
  have hfound : values [r] = before ++ v :: after := by rw [values_single, hvalues]
  exact .single hcan hr (.visitor hfound (by simp [values]) hgo hends)

/-- What a listing does once a page has been asked for. -/
def listOn (label base token : String) (visit : Visitor) (limit : Nat) (seen : List Json)
    (url : String) : Except Fault Page → Program Message (fun _ => Reply) (Option Listing)
  | .error f => done (some ⟨seen, .error f⟩)
  | .ok p =>
    match visit.walk seen p.values with
    | (seen, some ending) => done (some ⟨seen, ending⟩)
    | (seen, none) =>
      match p.nextUrl base with
      | none => done (some ⟨seen, .ok ()⟩)
      | some next =>
        if next = url then
          done (some ⟨seen,
            .error (.internal s!"{label} pagination did not advance past {url}")⟩)
        else listFrom label base token visit limit seen next

theorem listFrom_succ (limit : Nat) (url : String) :
    listFrom label base token visit (limit + 1) seen url =
      (getPage label token url).run >>= listOn label base token visit limit seen url := rfl

/-- A page that has been read begins a listing if all further ones begin listings. -/
theorem lists_of_listOn {limit : Nat} {r : Reading} {es : List (Event Message fun _ => Reply)}
    {l : Listing} (hcan : CanAsk token r.url) (hr : r.reply.Holds r.page)
    (further : ∀ seen url es l, (listFrom label base token visit limit seen url).Runs es (some l) →
      Lists label base token url visit seen (Event.questions es) l)
    (h : (listOn label base token visit limit seen r.url (.ok r.page)).Runs es (some l)) :
    Lists label base token r.url visit seen (r.exchange token :: Event.questions es) l := by
  rw [listOn] at h
  cases hwalk : visit.walk seen r.page.values with
  | mk seen' early =>
  rw [hwalk] at h
  cases early with
  | some e =>
    obtain ⟨rfl, hl⟩ := runs_done_iff.mp h
    cases hl
    exact lists_of_walk_eq_some hcan hr hwalk
  | none =>
    obtain ⟨rfl, hgo⟩ := Visitor.walk_eq_none_iff.mp hwalk
    dsimp only at h
    cases hnext : r.page.nextUrl base with
    | none =>
      rw [hnext] at h
      obtain ⟨rfl, hl⟩ := runs_done_iff.mp h
      cases hl
      rw [← values_single] at hgo ⊢
      exact .single hcan hr (.exhausted hgo rfl hnext)
    | some next =>
      rw [hnext] at h
      dsimp only at h
      by_cases hne : next = r.url
      · rw [if_pos hne] at h
        obtain ⟨rfl, hl⟩ := runs_done_iff.mp h
        cases hl
        rw [← values_single] at hgo ⊢
        rw [hne] at hnext
        exact .single hcan hr (.stuck hgo rfl hnext)
      · rw [if_neg hne] at h
        exact .cons hcan hr hnext hne hgo (further _ _ _ _ h)

theorem lists_of_runs {limit : Nat} {url : String} {es : List (Event Message fun _ => Reply)}
    {l : Listing} (h : (listFrom label base token visit limit seen url).Runs es (some l)) :
    Lists label base token url visit seen (Event.questions es) l := by
  induction limit generalizing seen url es l with
  | zero => exact nomatch (runs_done_iff.mp h).2
  | succ limit ih =>
    rw [listFrom_succ] at h
    obtain ⟨first, x, rest, rfl, hpage, h⟩ := runs_bind_iff.mp h
    have hsettles := settles_getPage hpage
    rw [Event.questions_append]
    cases x with
    | error f =>
      obtain ⟨rfl, hl⟩ := runs_done_iff.mp h
      cases hl
      simpa using lists_of_not_got hsettles
    | ok page =>
      rcases hsettles with ⟨-, -, f, hf⟩ | ⟨hcan, reply, hes, hx⟩
      · exact nomatch hf
      · let r : Reading := ⟨url, reply, page⟩
        have hr : r.reply.Holds r.page := (hx page).mp rfl
        rw [hes]
        exact lists_of_listOn (r := r) hcan hr (fun _ _ _ _ => ih) h

/-- Every listing that ends has read pages from the first url on, each where the one before points,
and has visited a prefix of their values; it ends as soon as the visitor does not go on, as a page
cannot be had or does not advance, or as there is no further page. -/
theorem listing_reads_pages {limit : Nat} {path : String}
    {es : List (Event Message fun _ => Reply)} {l : Listing}
    (h : (list limit label base token path visit).Runs es (some l)) :
    ∃ reads left, Event.questions es = reads.map (Reading.exchange token) ++ left ∧
      Trail base token (Page.link base path) reads ∧ l.visited <+: values reads ∧
      Conclusion label base token (Page.link base path) visit [] reads left l := by
  obtain ⟨reads, left, hes, trail, conclusion⟩ := lists_of_runs h
  exact ⟨reads, left, hes, trail, conclusion.visited_prefix, conclusion⟩

end Runs

/-- A server that has texts for some urls. -/
def serving (texts : List (String × String)) (url : String) : Reply :=
  match texts.lookup url with
  | some text => .answer 200 ⟨Text.Utf8.encode text, true⟩
  | none => .answer 404 ⟨[], true⟩

/-- Two pages of two values each. -/
def twoPages : String → Reply := serving [
  ("http://h/a", "\x7b\"next_url\":\"/b\",\"resources\":[1,2]\x7d"),
  ("http://h/b", "\x7b\"resources\":[3,4]\x7d")]

def untilThird : Visitor := fun seen _ => .ok (seen.length < 2)

def twoPageRun : List (Event Message fun _ => Reply) × Option Listing :=
  (list 2 "platform" "http://h/" "t" "/a" untilThird).play fun m => twoPages m.url

theorem twoPageRun_ends : twoPageRun.2.isSome := by decide +kernel

/-- Both pages are read and the third value is the last one visited. -/
theorem listing_reads_pages_third :
    ((twoPageRun.2.get twoPageRun_ends).visited.length = 3 ∧
      (Event.posed twoPageRun.1).map (·.url) = ["http://h/a", "http://h/b"]) ∧
    ∃ reads left, Event.questions twoPageRun.1 = reads.map (Reading.exchange "t") ++ left ∧
      Trail "http://h/" "t" "http://h/a" reads ∧
      (twoPageRun.2.get twoPageRun_ends).visited <+: values reads ∧
      Conclusion "platform" "http://h/" "t" "http://h/a" untilThird [] reads left
        (twoPageRun.2.get twoPageRun_ends) := by
  have hrun : (list 2 "platform" "http://h/" "t" "/a" untilThird).Runs twoPageRun.1
      (some (twoPageRun.2.get twoPageRun_ends)) := by
    rw [Option.some_get]
    exact runs_play _ _
  have hlink : Page.link "http://h/" "/a" = "http://h/a" := by decide +kernel
  have h := listing_reads_pages hrun
  rw [hlink] at h
  exact ⟨by decide +kernel, h⟩

end Tenancy.Http
