import Tenancy.Endpoint
import Tenancy.Proofs.Settings.Loading

/-!
# Settings cleaned once more

The settings are cleaned when they are loaded, and again when they are put to use. The token stays
as it is. An address stays as it is unless the slashes taken off its end stood behind a blank, and
what is nothing but slashes and blanks is let through by the one and refused by the other
(`load_normal_iff`).
-/

namespace Tenancy

theorem Session.open?_eq_ok_iff {endpoint token : String} {session : Session} :
    open? endpoint token = .ok session ↔
      session.endpoint = Text.baseAddress endpoint ∧ session.token = Text.trim token := by
  rw [open?]
  constructor
  · intro h
    split at h
    case isTrue => cases h
    case isFalse =>
      split at h
      case isTrue => cases h
      case isFalse =>
        obtain rfl := Except.ok.inj h
        exact ⟨rfl, rfl⟩
  · intro ⟨hendpoint, htoken⟩
    obtain ⟨e, t, he, ht⟩ := session
    obtain rfl : e = _ := hendpoint
    obtain rfl : t = _ := htoken
    rw [dif_neg he, dif_neg ht]

theorem Session.exists_open?_eq_ok_iff {endpoint token : String} :
    (∃ session, open? endpoint token = .ok session) ↔
      Text.baseAddress endpoint ≠ "" ∧ Text.trim token ≠ "" := by
  simp only [open?_eq_ok_iff]
  constructor
  · rintro ⟨session, hendpoint, htoken⟩
    exact ⟨hendpoint ▸ session.endpoint_ne, htoken ▸ session.token_ne⟩
  · rintro ⟨hendpoint, htoken⟩
    exact ⟨⟨_, _, hendpoint, htoken⟩, rfl, rfl⟩

theorem Endpoint.configured?_eq_ok_iff {s a : String} :
    configured? s = .ok a ↔ Text.baseAddress s = a ∧ a ≠ "" := by
  rw [configured?]
  split
  case isTrue hempty =>
    simp only [reduceCtorEq, false_iff]
    rintro ⟨rfl, hne⟩
    exact hne hempty
  case isFalse hne =>
    rw [Except.ok.injEq]
    exact ⟨fun h => ⟨h, h ▸ hne⟩, And.left⟩

namespace Settings

variable {env : Environment} {settings : Settings} {e t a name : String}

/-- Settings that can be put to use as they are. -/
structure IsNormal (settings : Settings) : Prop where
  endpoint_ne : settings.endpoint ≠ ""
  opens : ∃ session, Session.open? settings.endpoint settings.token = .ok session ∧
    session.endpoint = settings.endpoint ∧ session.token = settings.token
  identity : ∀ a, settings.identityEndpoint = some a → Endpoint.configured? a = .ok a

/-- What becomes of settings that are put to use, by the texts that the addresses were read from. -/
structure Reuses (env : Environment) (settings : Settings) (e : String) : Prop where
  endpoint_ne : settings.endpoint ≠ "" ↔ ∃ c ∈ e.toList, c ≠ '/'
  opens : (∃ session, Session.open? settings.endpoint settings.token = .ok session) ↔
    ¬ Text.IsHollow e
  keeps : ∀ session, Session.open? settings.endpoint settings.token = .ok session →
    session.token = settings.token ∧ (session.endpoint = settings.endpoint ↔ ¬ Text.EndsLoose e)
  identity : ∀ a t, settings.identityEndpoint = some a → Gives env identityName t →
    ((∃ b, Endpoint.configured? a = .ok b) ↔ ¬ Text.IsHollow t) ∧
      (Endpoint.configured? a = .ok a ↔ ¬ Text.EndsLoose t)

theorem Gives.exists_raw (h : Gives env name t) :
    ∃ raw, env.lookup name = some raw ∧ Text.trim raw = t :=
  h.2.imp fun _ hraw => ⟨hraw.1, Text.trims_iff.mp hraw.2⟩

theorem Gives.unique {t' : String} (h : Gives env name t) (h' : Gives env name t') : t = t' := by
  obtain ⟨raw, hraw, rfl⟩ := h.exists_raw
  obtain ⟨raw', hraw', rfl⟩ := h'.exists_raw
  rw [Option.some.inj (hraw.symm.trans hraw')]

/-- An address that is set stands for the base address of its text. -/
theorem Identifies.exists_raw (h : Identifies env (some a)) :
    ∃ raw, env.lookup identityName = some raw ∧ Text.baseAddress raw = a ∧ a ≠ "" := by
  cases h with
  | @address raw _ _ hraw htrims hstrips hne =>
    refine ⟨raw, hraw, ?_, hne⟩
    rw [Text.baseAddress, Text.trims_iff.mp htrims, Text.strips_iff.mp hstrips]

theorem reuses_of_load (h : load env = .ok settings) (he : Gives env endpointName e) :
    Reuses env settings e := by
  obtain ⟨⟨e', he', hstrips⟩, htoken, hidentity, -⟩ := load_eq_ok_iff.mp h
  obtain rfl := he'.unique he
  obtain ⟨raw, -, htrim⟩ := he.exists_raw
  have haddress : Text.baseAddress raw = settings.endpoint := by
    rw [Text.baseAddress, htrim, Text.strips_iff.mp hstrips]
  obtain ⟨rawToken, -, htrimToken⟩ := htoken.exists_raw
  have hkept : Text.trim settings.token = settings.token := by
    rw [← htrimToken, Text.trim_trim]
  refine ⟨?endpoint_ne, ?opens, ?keeps, ?identity⟩
  case endpoint_ne =>
    rw [← Text.strips_iff.mp hstrips, Ne, Text.dropSlashes_eq_empty_iff]
    simp
  case opens =>
    rw [Session.exists_open?_eq_ok_iff, hkept, ← haddress, Ne,
      Text.baseAddress_baseAddress_eq_empty_iff, htrim]
    exact and_iff_left htoken.1
  case keeps =>
    intro session hopen
    obtain ⟨hendpoint, htoken⟩ := Session.open?_eq_ok_iff.mp hopen
    refine ⟨htoken.trans hkept, ?_⟩
    rw [hendpoint, ← haddress, Text.baseAddress_baseAddress_iff, htrim]
  case identity =>
    intro a t ha ht
    obtain ⟨raw, hraw, rfl, hne⟩ := (ha ▸ hidentity).exists_raw
    obtain ⟨raw', hraw', rfl⟩ := ht.exists_raw
    obtain rfl : raw = raw' := Option.some.inj (hraw.symm.trans hraw')
    constructor
    · simp [Endpoint.configured?_eq_ok_iff, ← Text.baseAddress_baseAddress_eq_empty_iff]
    · rw [Endpoint.configured?_eq_ok_iff, Text.baseAddress_baseAddress_iff]
      exact and_iff_left hne

theorem Identifies.exists_gives (h : Identifies env (some a)) : ∃ t, Gives env identityName t := by
  obtain ⟨raw, hraw, rfl, hne⟩ := h.exists_raw
  refine ⟨Text.trim raw, fun hblank => hne ?_, raw, hraw, Text.trims_trim raw⟩
  rw [Text.baseAddress, hblank]
  rfl

/-- What is nothing but slashes is no address, and does not end with slashes behind a blank. -/
theorem Identifies.not_endsLoose (h : Identifies env none) (ht : Gives env identityName t) :
    ¬ Text.EndsLoose t := by
  obtain ⟨raw, hraw, rfl⟩ := ht.exists_raw
  cases h with
  | unset hunset => simp [hunset] at hraw
  | slashes hraw' htrims hslashes =>
    obtain rfl := Option.some.inj (hraw.symm.trans hraw')
    rw [Text.trims_iff.mp htrims]
    exact Text.not_endsLoose_of_slashes hslashes

theorem Reuses.identity_kept_iff (h : Reuses env settings e)
    (hidentity : Identifies env settings.identityEndpoint) :
    (∀ a, settings.identityEndpoint = some a → Endpoint.configured? a = .ok a) ↔
      ∀ t, Gives env identityName t → ¬ Text.EndsLoose t := by
  constructor
  · intro hkept t ht
    cases ha : settings.identityEndpoint with
    | none => exact (ha ▸ hidentity).not_endsLoose ht
    | some a => exact (h.identity a t ha ht).2.mp (hkept a ha)
  · intro hsolid a ha
    obtain ⟨t, ht⟩ := (ha ▸ hidentity).exists_gives
    exact (h.identity a t ha ht).2.mpr (hsolid t ht)

/-- Settings are loaded ready for use exactly if the endpoint is more than slashes and no address
has slashes behind a blank at its end. -/
theorem load_normal_iff (h : load env = .ok settings) (he : Gives env endpointName e) :
    Reuses env settings e ∧
      (IsNormal settings ↔
        (∃ c ∈ e.toList, c ≠ '/') ∧ ¬ Text.EndsLoose e ∧
          ∀ t, Gives env identityName t → ¬ Text.EndsLoose t) := by
  have hreuses := reuses_of_load h he
  have hidentity := hreuses.identity_kept_iff (load_eq_ok_iff.mp h).identity
  refine ⟨hreuses, ?_⟩
  constructor
  · rintro ⟨hne, ⟨session, hopen, hendpoint, -⟩, hkept⟩
    exact ⟨hreuses.endpoint_ne.mp hne, (hreuses.keeps session hopen).2.mp hendpoint,
      hidentity.mp hkept⟩
  · rintro ⟨hother, hloose, hsolid⟩
    obtain ⟨session, hopen⟩ := hreuses.opens.mpr fun hhollow => hloose (hhollow.endsLoose hother)
    obtain ⟨htoken, hendpoint⟩ := hreuses.keeps session hopen
    exact ⟨hreuses.endpoint_ne.mpr hother, ⟨session, hopen, hendpoint.mpr hloose, htoken⟩,
      hidentity.mpr hsolid⟩

/-- A platform and an identity service, reached with some token. -/
def reaching (endpoint identity : String) : Environment :=
  [(endpointName, endpoint), (tokenName, "t"), (identityName, identity)]

theorem load_normal_iff_slashes :
    load (reaching " http://api//" "http://id/") = .ok ⟨"http://api", "t", some "http://id", 15⟩ ∧
      IsNormal ⟨"http://api", "t", some "http://id", 15⟩ := by
  have hload : load (reaching " http://api//" "http://id/") =
      .ok ⟨"http://api", "t", some "http://id", 15⟩ := by decide
  have hendpoint : Gives (reaching " http://api//" "http://id/") endpointName "http://api//" :=
    ⟨by decide, _, rfl, Text.trims_iff.mpr (by decide)⟩
  refine ⟨hload, (load_normal_iff hload hendpoint).2.mpr
    ⟨⟨'h', by decide, by decide⟩, by decide, fun t ht => ?_⟩⟩
  obtain ⟨raw, hraw, rfl⟩ := ht.exists_raw
  obtain rfl : "http://id/" = raw := Option.some.inj hraw
  decide

/-- Slashes alone are an endpoint that no session is opened with. Of addresses that end with a slash
behind a blank the blank is left, which is taken off only when they are used. -/
theorem loaded_not_normal :
    load (reaching "/" "") = .ok ⟨"", "t", none, 15⟩ ∧
      Session.open? "" "t" = .error (.invalid "platform API endpoint must not be empty") ∧
      load (reaching "http://api /" "/ /") = .ok ⟨"http://api ", "t", some "/ ", 15⟩ ∧
      (∃ session, Session.open? "http://api " "t" = .ok session ∧
        session.endpoint = "http://api") ∧
      Endpoint.configured? "/ " = .error (.invalid "identity endpoint must not be empty") ∧
      ¬ ∀ env settings, load env = .ok settings → IsNormal settings := by
  have hslash : load (reaching "/" "") = .ok ⟨"", "t", none, 15⟩ := by decide
  refine ⟨hslash, rfl, by decide, ⟨⟨"http://api", "t", by decide, by decide⟩, ?_, rfl⟩, rfl,
    fun hall => ?_⟩
  · exact Session.open?_eq_ok_iff.mpr ⟨by decide, by decide⟩
  · exact (hall _ _ hslash).endpoint_ne rfl

end Settings

end Tenancy
