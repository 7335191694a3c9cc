import Mathlib.Data.Set.Card
import Tenancy.Proofs.Http.Paging

/-!
# Whether a listing ends

A server that answers by the url alone decides whether the listing of a collection ends. The listing
compares the url of a page with that of the page before it only: it ends if and only if the links
never lead back to a page further back.
-/

namespace Tenancy

section Chains

variable {α : Type} {R : α → α → Prop} {x : α}

/-- A chain that comes back to where it started can be gone through again and again. -/
theorem exists_long_chain {xs ys : List α} (h : (x :: xs ++ x :: ys).IsChain R) (n : Nat) :
    ∃ zs, (x :: zs).IsChain R ∧ n ≤ zs.length := by
  obtain ⟨hloop, -, hback⟩ := List.isChain_append.mp h
  induction n with
  | zero => exact ⟨[], .singleton x, Nat.zero_le _⟩
  | succ n ih =>
    obtain ⟨zs, hzs, hn⟩ := ih
    refine ⟨xs ++ x :: zs, List.isChain_append.mpr ⟨hloop, hzs, hback⟩, ?_⟩
    simp only [List.length_append, List.length_cons]
    omega

theorem nodup_of_length_le {n : Nat} (h : ∀ xs, (x :: xs).IsChain R → xs.length < n) {xs : List α}
    (hxs : (x :: xs).IsChain R) : (x :: xs).Nodup := by
  induction xs generalizing x n with
  | nil => simp
  | cons y ys ih =>
    obtain ⟨hxy, hys⟩ := List.isChain_cons_cons.mp hxs
    have hbound : ∀ zs, (y :: zs).IsChain R → zs.length < n := by
      intro zs hzs
      have := h (y :: zs) (.cons_cons hxy hzs)
      simp only [List.length_cons] at this
      omega
    refine List.nodup_cons.mpr ⟨fun hmem => ?_, ih hbound hys⟩
    obtain ⟨before, after, hsplit⟩ := List.append_of_mem hmem
    rw [hsplit] at hxs
    obtain ⟨zs, hzs, hn⟩ := exists_long_chain hxs n
    exact absurd (h zs hzs) (by omega)

theorem length_le_of_nodup {s : Set α} (hs : s.Finite) (hR : ∀ x y, R x y → x ∈ s) {xs : List α}
    (hxs : (x :: xs).IsChain R) (hnodup : (x :: xs).Nodup) : xs.length ≤ s.ncard := by
  classical
  have hmem : ∀ y ∈ (x :: xs).dropLast, y ∈ s := by
    clear hnodup
    induction xs generalizing x with
    | nil => simp
    | cons y ys ih =>
      obtain ⟨hxy, hys⟩ := List.isChain_cons_cons.mp hxs
      rw [List.dropLast_cons_of_ne_nil (List.cons_ne_nil y ys)]
      exact List.forall_mem_cons.mpr ⟨hR x y hxy, ih hys⟩
  have hsub : ((x :: xs).dropLast.toFinset : Set α) ⊆ s := by
    intro y hy
    exact hmem y (by simpa using hy)
  have hcard := Set.ncard_le_ncard hsub hs
  rw [Set.ncard_coe_finset,
    List.toFinset_card_of_nodup (hnodup.sublist (List.dropLast_sublist _))] at hcard
  simpa using hcard

end Chains

namespace Http

open Program

/-- The urls that were asked for. -/
def urlsAsked (es : List (Event Message fun _ => Reply)) : List String :=
  (Event.posed es).map (·.url)

theorem urlsAsked_append (es es' : List (Event Message fun _ => Reply)) :
    urlsAsked (es ++ es') = urlsAsked es ++ urlsAsked es' := by
  simp [urlsAsked]

/-- The page that an answer holds. -/
def Reply.page? : Reply → Option Page
  | .unreachable | .dropped => none
  | .answer status b =>
    if isSuccess status then
      match b.value "" "" with
      | .ok v => (Page.shape.decode v).toOption
      | .error _ => none
    else none

theorem Reply.page?_eq_some_iff {reply : Reply} {p : Page} :
    reply.page? = some p ↔ reply.Holds p := by
  cases reply with
  | unreachable => simp [page?, Holds, Says]
  | dropped => simp [page?, Holds, Says]
  | answer status b =>
    have hsays : ∀ v, b.Says v ↔ b.value "" "" = .ok v := fun v => Body.value_eq_ok_iff.symm
    by_cases hs : isSuccess status = true
    · cases hb : b.value "" "" with
      | error f => simp [page?, Holds, Says, hs, hb, hsays]
      | ok v => cases hv : Page.shape.decode v <;>
          simp [page?, Holds, Says, hs, hb, hsays, hv, Except.toOption]
    · simp [page?, Holds, Says, hs]

theorem Reply.Holds.unique {reply : Reply} {p q : Page} (hp : reply.Holds p) (hq : reply.Holds q) :
    p = q := by
  rw [← page?_eq_some_iff] at hp hq
  exact Option.some.inj (hp.symm.trans hq)

/-- The urls at which a server that answers by the url alone has a page. -/
def pages (serve : String → Reply) : Set String :=
  {url | ∃ p, (serve url).Holds p}

variable (serve : String → Reply) (base token : String)

/-- The page at a url can be had and points at another one. -/
structure Links (url : String) (p : Page) (next : String) : Prop where
  can : CanAsk token url
  holds : (serve url).Holds p
  points : p.nextUrl base = some next
  advances : next ≠ url

def Follows (url next : String) : Prop :=
  ∃ p, Links serve base token url p next

/-- The pages from a url on, read one after the other as long as the visitor goes on. -/
def readFrom (label : String) (limit : Nat) (seen : List Json) (url : String) :
    List (Event Message fun _ => Reply) × Option Listing :=
  (listFrom label base token .all limit seen url).play fun m => serve m.url

variable {serve base token} in
theorem Follows.mem_pages {url next : String} (h : Follows serve base token url next) :
    url ∈ pages serve := by
  obtain ⟨p, hlinks⟩ := h
  exact ⟨p, hlinks.holds⟩

variable {serve base token} {label url : String} {limit : Nat} {seen : List Json}

theorem settles_play_getPage (serve : String → Reply) (label token url : String) :
    let run := (getPage label token url).run.play fun m => serve m.url
    ¬ CanAsk token url ∧ urlsAsked run.1 = [] ∧ (∃ f, run.2 = .error f) ∨
      CanAsk token url ∧ urlsAsked run.1 = [url] ∧ ∀ p, run.2 = .ok p ↔ (serve url).Holds p := by
  intro run
  have h := settles_getPage (runs_play (fun m => serve m.url) (getPage label token url).run)
  rcases h with ⟨hcan, hes, hf⟩ | ⟨hcan, reply, hes, hx⟩
  · exact .inl ⟨hcan, by simp [urlsAsked, Event.posed, run, hes], hf⟩
  · have hmem : ⟨pageMessage token url, reply⟩ ∈ Event.questions run.1 := by simp [run, hes]
    obtain rfl : reply = serve url := eq_of_mem_questions_play hmem
    exact .inr ⟨hcan, by simp [urlsAsked, Event.posed, run, hes, pageMessage], hx⟩

theorem readFrom_succ :
    readFrom serve base token label (limit + 1) seen url =
      let first := (getPage label token url).run.play fun m => serve m.url
      let rest := (listOn label base token .all limit seen url first.2).play fun m => serve m.url
      (first.1 ++ rest.1, rest.2) := by
  rw [readFrom, listFrom_succ, play_bind]

theorem readFrom_of_links {p : Page} {next : String} (h : Links serve base token url p next) :
    urlsAsked (readFrom serve base token label (limit + 1) seen url).1 =
        url :: urlsAsked (readFrom serve base token label limit (seen ++ p.values) next).1 ∧
      (readFrom serve base token label (limit + 1) seen url).2 =
        (readFrom serve base token label limit (seen ++ p.values) next).2 := by
  rcases settles_play_getPage serve label token url with ⟨hcan, -⟩ | ⟨-, hasked, hp⟩
  · exact absurd h.can hcan
  · rw [readFrom_succ]
    dsimp only
    rw [(hp p).mpr h.holds, urlsAsked_append, hasked]
    simp [listOn, h.points, h.advances, readFrom]

/-- A page that points at itself is refused. -/
theorem readFrom_of_self {p : Page} (hcan : CanAsk token url) (hp : (serve url).Holds p)
    (hself : p.nextUrl base = some url) :
    (readFrom serve base token label (limit + 1) seen url).2 = some ⟨seen ++ p.values,
      .error (.internal s!"{label} pagination did not advance past {url}")⟩ := by
  rcases settles_play_getPage serve label token url with ⟨hnot, -⟩ | ⟨-, -, hx⟩
  · exact absurd hcan hnot
  · rw [readFrom_succ]
    dsimp only
    rw [(hx p).mpr hp]
    simp [listOn, hself, play]

theorem readFrom_of_not_links (h : ∀ next, ¬ Follows serve base token url next) :
    (∃ l, (readFrom serve base token label (limit + 1) seen url).2 = some l) ∧
      urlsAsked (readFrom serve base token label (limit + 1) seen url).1 <+: [url] := by
  rw [readFrom_succ]
  dsimp only
  rcases settles_play_getPage serve label token url with ⟨-, hasked, f, hf⟩ | ⟨hcan, hasked, hx⟩
  · rw [hf, urlsAsked_append, hasked]
    exact ⟨⟨_, rfl⟩, by simp [listOn, play, urlsAsked]⟩
  · rw [urlsAsked_append, hasked]
    cases hp : ((getPage label token url).run.play fun m => serve m.url).2 with
    | error f => exact ⟨⟨_, rfl⟩, by simp [listOn, play, urlsAsked]⟩
    | ok p =>
      cases hnext : p.nextUrl base with
      | none => simp [listOn, hnext, play, urlsAsked]
      | some next =>
        have hself : next = url := by
          by_contra hne
          exact h next ⟨p, hcan, (hx p).mp hp, hnext, hne⟩
        simp [listOn, hnext, hself, play, urlsAsked]

/-- The urls asked for follow one another from the first on. -/
theorem urlsAsked_prefix (serve : String → Reply) (base token label : String) (limit : Nat)
    (seen : List Json) (url : String) :
    ∃ urls, (url :: urls).IsChain (Follows serve base token) ∧
      urlsAsked (readFrom serve base token label limit seen url).1 <+: url :: urls := by
  induction limit generalizing seen url with
  | zero => exact ⟨[], .singleton url, List.nil_prefix⟩
  | succ limit ih =>
    by_cases hfollows : ∃ next, Follows serve base token url next
    · obtain ⟨next, p, hlinks⟩ := hfollows
      obtain ⟨urls, hurls, hasked⟩ := ih (seen ++ p.values) next
      rw [(readFrom_of_links hlinks).1]
      exact ⟨next :: urls, .cons_cons ⟨p, hlinks⟩ hurls, (List.prefix_cons_inj url).mpr hasked⟩
    · exact ⟨[], .singleton url, (readFrom_of_not_links (not_exists.mp hfollows)).2⟩

theorem length_urlsAsked (h : (readFrom serve base token label limit seen url).2 = none) :
    (urlsAsked (readFrom serve base token label limit seen url).1).length = limit := by
  induction limit generalizing seen url with
  | zero => rfl
  | succ limit ih =>
    by_cases hfollows : ∃ next, Follows serve base token url next
    · obtain ⟨next, p, hlinks⟩ := hfollows
      rw [(readFrom_of_links hlinks).2] at h
      rw [(readFrom_of_links hlinks).1, List.length_cons, ih h]
    · obtain ⟨l, hl⟩ := (readFrom_of_not_links (not_exists.mp hfollows)).1
      exact nomatch h.symm.trans hl

/-- A listing ends if and only if the pages that follow one another are no more than its limit. -/
theorem ends_iff :
    (∃ l, (readFrom serve base token label limit seen url).2 = some l) ↔
      ∀ urls, (url :: urls).IsChain (Follows serve base token) → urls.length < limit := by
  induction limit generalizing seen url with
  | zero =>
    constructor
    · rintro ⟨l, hl⟩
      exact nomatch hl
    · intro h
      exact absurd (h [] (.singleton url)) (Nat.not_lt_zero _)
  | succ limit ih =>
    by_cases hfollows : ∃ next, Follows serve base token url next
    · obtain ⟨next, p, hlinks⟩ := hfollows
      rw [(readFrom_of_links hlinks).2, ih]
      constructor
      · intro h urls hurls
        cases urls with
        | nil => simp
        | cons other urls =>
          obtain ⟨⟨q, hother⟩, hurls⟩ := List.isChain_cons_cons.mp hurls
          obtain rfl := hother.holds.unique hlinks.holds
          obtain rfl := Option.some.inj (hother.points.symm.trans hlinks.points)
          exact Nat.succ_lt_succ (h urls hurls)
      · intro h urls hurls
        exact Nat.lt_of_succ_lt_succ (h (next :: urls) (.cons_cons ⟨p, hlinks⟩ hurls))
    · apply iff_of_true (readFrom_of_not_links (not_exists.mp hfollows)).1
      intro urls hurls
      cases urls with
      | nil => simp
      | cons next urls => exact absurd ⟨next, (List.isChain_cons_cons.mp hurls).1⟩ hfollows

/-- A page that points at itself ends a listing that gets to it. -/
theorem refused_of_self (seen : List Json) {last : String} {p : Page}
    (hreach : Relation.ReflTransGen (Follows serve base token) url last)
    (hcan : CanAsk token last) (hp : (serve last).Holds p) (hself : p.nextUrl base = some last) :
    ∃ limit seen', (readFrom serve base token label limit seen url).2 = some ⟨seen',
      .error (.internal s!"{label} pagination did not advance past {last}")⟩ := by
  induction hreach using Relation.ReflTransGen.head_induction_on generalizing seen with
  | refl => exact ⟨1, _, readFrom_of_self hcan hp hself⟩
  | head hfollows _ ih =>
    obtain ⟨q, hlinks⟩ := hfollows
    obtain ⟨limit, seen', h⟩ := ih (seen ++ q.values)
    exact ⟨limit + 1, seen', (readFrom_of_links hlinks).2.trans h⟩

/-- No chain of links from a url on leads back to a page before it. -/
def NeverReturns (serve : String → Reply) (base token first : String) : Prop :=
  ∀ urls, (first :: urls).IsChain (Follows serve base token) → (first :: urls).Nodup

theorem ends_iff_neverReturns (hpages : (pages serve).Finite) :
    (∃ limit l, (readFrom serve base token label limit seen url).2 = some l) ↔
      NeverReturns serve base token url := by
  simp only [ends_iff]
  constructor
  · rintro ⟨limit, hlimit⟩ urls hurls
    exact nodup_of_length_le hlimit hurls
  · intro h
    refine ⟨(pages serve).ncard + 1, fun urls hurls => Nat.lt_succ_of_le ?_⟩
    exact length_le_of_nodup hpages (fun _ _ => Follows.mem_pages) hurls (h urls hurls)

/-- A listing that asks for no url twice ends as the pages run out. -/
theorem ends_of_nodup_urlsAsked (hpages : (pages serve).Finite)
    (h : ∀ limit, (urlsAsked (readFrom serve base token label limit seen url).1).Nodup) :
    ∃ limit l, (readFrom serve base token label limit seen url).2 = some l := by
  let bound := (pages serve).ncard + 2
  refine ⟨bound, Option.ne_none_iff_exists'.mp ?_⟩
  intro hnone
  have hlength := length_urlsAsked hnone
  have hnodup := h bound
  obtain ⟨urls, hurls, hasked⟩ := urlsAsked_prefix serve base token label bound seen url
  rcases List.prefix_cons_iff.mp hasked with hnil | ⟨rest, hrest, hprefix⟩
  · rw [hnil] at hlength
    exact nomatch hlength
  · rw [hrest] at hlength hnodup
    have hchain : (url :: rest).IsChain (Follows serve base token) :=
      hurls.prefix ((List.prefix_cons_inj url).mpr hprefix)
    have hle := length_le_of_nodup hpages (fun _ _ => Follows.mem_pages) hchain hnodup
    simp only [List.length_cons, bound] at hlength
    omega

theorem nodup_urlsAsked_iff_neverReturns (hpages : (pages serve).Finite) :
    (∀ limit, (urlsAsked (readFrom serve base token label limit seen url).1).Nodup) ↔
      NeverReturns serve base token url := by
  constructor
  · intro h
    exact (ends_iff_neverReturns hpages).mp (ends_of_nodup_urlsAsked hpages h)
  · intro h limit
    obtain ⟨urls, hurls, hasked⟩ := urlsAsked_prefix serve base token label limit seen url
    exact (h urls hurls).sublist hasked.sublist

/-- A listing of everything at a server that answers by the url alone. -/
def listing (serve : String → Reply) (base token label path : String) (limit : Nat) :
    List (Event Message fun _ => Reply) × Option Listing :=
  (list limit label base token path .all).play fun m => serve m.url

/-- At a server with finitely many pages a listing ends if and only if the links never lead back,
and only then no url is ever asked for twice; a page that points at itself is refused. -/
theorem listing_ends_iff_neverReturns (base token label path : String)
    (hpages : (pages serve).Finite) :
    ((∃ limit l, (listing serve base token label path limit).2 = some l) ↔
        NeverReturns serve base token (Page.link base path)) ∧
      ((∀ limit, (urlsAsked (listing serve base token label path limit).1).Nodup) ↔
        NeverReturns serve base token (Page.link base path)) ∧
      ∀ last p, Relation.ReflTransGen (Follows serve base token) (Page.link base path) last →
        CanAsk token last → (serve last).Holds p → p.nextUrl base = some last →
        ∃ limit seen, (listing serve base token label path limit).2 = some ⟨seen,
          .error (.internal s!"{label} pagination did not advance past {last}")⟩ :=
  ⟨ends_iff_neverReturns hpages, nodup_urlsAsked_iff_neverReturns hpages,
    fun _ _ hreach hcan hp hself => refused_of_self [] hreach hcan hp hself⟩

instance (token url : String) : Decidable (CanAsk token url) :=
  inferInstanceAs (Decidable (_ ∧ _))

theorem follows_iff {next : String} :
    Follows serve base token url next ↔
      CanAsk token url ∧ ((serve url).page?.bind (·.nextUrl base)) = some next ∧ next ≠ url := by
  simp only [Option.bind_eq_some_iff, Reply.page?_eq_some_iff]
  constructor
  · rintro ⟨p, hlinks⟩
    exact ⟨hlinks.can, ⟨p, hlinks.holds, hlinks.points⟩, hlinks.advances⟩
  · rintro ⟨hcan, ⟨p, hp, hnext⟩, hne⟩
    exact ⟨p, hcan, hp, hnext, hne⟩

instance (next : String) : Decidable (Follows serve base token url next) :=
  decidable_of_iff _ follows_iff.symm

theorem finite_pages_serving (texts : List (String × String)) :
    (pages (serving texts)).Finite := by
  refine (texts.map Prod.fst).finite_toSet.subset ?_
  rintro url ⟨p, hp⟩
  rw [← Reply.page?_eq_some_iff, serving] at hp
  cases htext : texts.lookup url with
  | none => simp [htext, Reply.page?, isSuccess] at hp
  | some text =>
    obtain ⟨before, after, rfl, -⟩ := List.lookup_eq_some_iff.mp htext
    simp

/-- A page that points at a second and last one. -/
def row : String → Reply := serving [
  ("http://h/a", "\x7b\"next_url\":\"/b\",\"resources\":[1]\x7d"),
  ("http://h/b", "\x7b\"resources\":[2]\x7d")]

theorem listing_row_ends : (listing row "http://h" "t" "platform" "/a" 2).2.isSome := by
  decide +kernel

theorem listing_ends_iff_neverReturns_row :
    (pages row).Finite ∧
      NeverReturns row "http://h" "t" (Page.link "http://h" "/a") ∧
      ∀ limit, (urlsAsked (listing row "http://h" "t" "platform" "/a" limit).1).Nodup := by
  have hpages : (pages row).Finite := finite_pages_serving _
  obtain ⟨hends, hnodup, -⟩ :=
    listing_ends_iff_neverReturns "http://h" "t" "platform" "/a" hpages
  have hnever := hends.mp ⟨2, Option.isSome_iff_exists.mp listing_row_ends⟩
  exact ⟨hpages, hnever, hnodup.mpr hnever⟩

/-- Two pages that point at each other. -/
def ring : String → Reply := serving [
  ("http://h/a", "\x7b\"next_url\":\"/b\",\"resources\":[1]\x7d"),
  ("http://h/b", "\x7b\"next_url\":\"/a\",\"resources\":[2]\x7d")]

theorem ring_follows :
    Follows ring "http://h" "t" "http://h/a" "http://h/b" ∧
      Follows ring "http://h" "t" "http://h/b" "http://h/a" := by
  decide +kernel

theorem readFrom_ring (limit : Nat) (seen : List Json) :
    (readFrom ring "http://h" "t" "platform" limit seen "http://h/a").2 = none ∧
      (readFrom ring "http://h" "t" "platform" limit seen "http://h/b").2 = none := by
  induction limit generalizing seen with
  | zero => exact ⟨rfl, rfl⟩
  | succ limit ih =>
    obtain ⟨⟨p, hp⟩, ⟨q, hq⟩⟩ := ring_follows
    exact ⟨(readFrom_of_links hp).2.trans (ih _).2, (readFrom_of_links hq).2.trans (ih _).1⟩

/-- A listing of two pages that point at each other goes round for ever. -/
theorem listing_ring_never_ends :
    (pages ring).Finite ∧
      (∀ limit, (listing ring "http://h" "t" "platform" "/a" limit).2 = none) ∧
      urlsAsked (listing ring "http://h" "t" "platform" "/a" 3).1 =
        ["http://h/a", "http://h/b", "http://h/a"] := by
  refine ⟨finite_pages_serving _, fun limit => ?_, by decide +kernel⟩
  have hlink : Page.link "http://h" "/a" = "http://h/a" := by decide +kernel
  rw [listing, list, hlink]
  exact (readFrom_ring limit []).1

end Http

end Tenancy
