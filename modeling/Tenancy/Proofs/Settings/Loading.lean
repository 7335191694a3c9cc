import Tenancy.Proofs.Json.Fields
import Tenancy.Proofs.Settings.Number
import Tenancy.Proofs.Text.Trimming

/-!
# Which environments give settings

The settings are read from what stands between the blanks of four variables. Which environments are
refused, and with what words, follows variable by variable; nothing else is refused (`load_exact`).
-/

namespace Tenancy.Settings

section Variables

variable {env : Environment} {name t : String} {n : Nat} {f : Fault}

/-- A variable is set to more than blanks, with the text between them. -/
def Gives (env : Environment) (name t : String) : Prop :=
  t ≠ "" ∧ ∃ raw, env.lookup name = some raw ∧ Text.Trims raw t

/-- A variable is not set, or is blank. -/
def Lacks (env : Environment) (name : String) : Prop :=
  ∀ raw, env.lookup name = some raw → ∀ c ∈ raw.toList, Text.isBlank c

/-- The time to wait that is given, or else the usual one. -/
inductive Waits (env : Environment) : Nat → Prop where
  | usual : env.lookup timeoutName = none → Waits env 15
  | given {raw t : String} {n : Nat} : env.lookup timeoutName = some raw → Text.Trims raw t →
      Writes t.toList n → 1 ≤ n → n ≤ 0xFFFFFFFFFFFFFFFF → Waits env n

/-- There is no waiting for the time that is given. -/
inductive Stalls (env : Environment) : Fault → Prop where
  | zero {raw t : String} : env.lookup timeoutName = some raw → Text.Trims raw t →
      Writes t.toList 0 → Stalls env (.invalid "ROSTER_HTTP_TIMEOUT_SECS must be greater than zero")
  | number {raw t : String} {d : NumberDefect} : env.lookup timeoutName = some raw →
      Text.Trims raw t → Spoils t.toList d →
      Stalls env
        (.invalid ("invalid ROSTER_HTTP_TIMEOUT_SECS value '" ++ raw ++ "': " ++ d.message))

/-- The identity service stands at an address that is more than slashes, or nowhere. -/
inductive Identifies (env : Environment) : Option String → Prop where
  | unset : env.lookup identityName = none → Identifies env none
  | slashes {raw t : String} : env.lookup identityName = some raw → Text.Trims raw t →
      (∀ c ∈ t.toList, c = '/') → Identifies env none
  | address {raw t a : String} : env.lookup identityName = some raw → Text.Trims raw t →
      Text.Strips t a → a ≠ "" → Identifies env (some a)

theorem required_eq_ok_iff : required env name = .ok t ↔ Gives env name t := by
  cases h : env.lookup name with
  | none => simp [required, Gives, h]
  | some raw =>
    simp only [required, Gives, h, Option.map_some, Option.some.injEq, exists_eq_left',
      Text.trims_iff]
    split
    case isTrue hblank =>
      simp only [reduceCtorEq, false_iff]
      rintro ⟨hne, rfl⟩
      exact hne hblank
    case isFalse hne =>
      rw [Except.ok.injEq]
      exact ⟨fun heq => ⟨heq ▸ hne, heq⟩, fun heq => heq.2⟩

theorem required_eq_error_iff :
    required env name = .error f ↔ Lacks env name ∧ f = .invalid s!"{name} is required" := by
  cases h : env.lookup name with
  | none =>
    simp only [required, Lacks, h, Option.map_none, Except.error.injEq, reduceCtorEq, false_implies,
      implies_true, true_and]
    exact eq_comm
  | some raw =>
    simp only [required, Lacks, h, Option.map_some, Option.some.injEq, forall_eq',
      ← Text.trim_eq_empty_iff]
    split
    case isTrue hblank => simp [hblank, eq_comm]
    case isFalse hne => simp [hne]

theorem readTimeout_eq_ok_iff : readTimeout env = .ok n ↔ Waits env n := by
  constructor
  · intro h
    unfold readTimeout at h
    split at h
    case h_1 hunset =>
      obtain rfl : defaultTimeout = n := Except.ok.inj h
      exact .usual hunset
    case h_2 raw hraw =>
      split at h
      case h_1 k hread =>
        split at h
        case isTrue => cases h
        case isFalse hpositive =>
          obtain rfl : k = n := Except.ok.inj h
          obtain ⟨hwrites, hbound⟩ := readNumber_eq_ok_iff.mp hread
          rw [numberBound] at hbound
          exact .given hraw (Text.trims_trim raw) hwrites (by omega) (by omega)
      case h_2 => cases h
  · intro h
    cases h with
    | usual hunset => simp [readTimeout, hunset, defaultTimeout]
    | given hraw htrims hwrites hlow hhigh =>
      have hbound : n < numberBound := by
        rw [numberBound]
        omega
      have hread := readNumber_eq_ok_iff.mpr ⟨hwrites, hbound⟩
      simp only [readTimeout, hraw, Text.trims_iff.mp htrims, hread]
      rw [if_neg (by omega)]

theorem readTimeout_eq_error_iff : readTimeout env = .error f ↔ Stalls env f := by
  constructor
  · intro h
    unfold readTimeout at h
    split at h
    case h_1 => cases h
    case h_2 raw hraw =>
      split at h
      case h_1 k hread =>
        split at h
        case isTrue hzero =>
          obtain rfl := Except.error.inj h
          exact .zero hraw (Text.trims_trim raw) (hzero ▸ (readNumber_eq_ok_iff.mp hread).1)
        case isFalse => cases h
      case h_2 d hread =>
        obtain rfl := Except.error.inj h
        exact .number hraw (Text.trims_trim raw) ((readNumber_eq_error_iff d).mp hread)
  · intro h
    cases h with
    | zero hraw htrims hwrites =>
      have hread := readNumber_eq_ok_iff.mpr ⟨hwrites, show 0 < numberBound by decide⟩
      simp only [readTimeout, hraw, Text.trims_iff.mp htrims, hread]
      rfl
    | @number raw _ d hraw htrims hspoils =>
      have hread := (readNumber_eq_error_iff d).mpr hspoils
      simp only [readTimeout, hraw, Text.trims_iff.mp htrims, hread]
      rfl

theorem identifies_iff {a : Option String} :
    Identifies env a ↔ ((env.lookup identityName).map Text.baseAddress).filter (· ≠ "") = a := by
  constructor
  · intro h
    cases h with
    | unset hunset => rw [hunset]; rfl
    | slashes hraw htrims hslashes =>
      have haddress := Text.dropSlashes_eq_empty_iff.mpr hslashes
      rw [hraw, Option.map_some, Text.baseAddress, Text.trims_iff.mp htrims, haddress]
      rfl
    | address hraw htrims hstrips hne =>
      rw [hraw, Option.map_some, Text.baseAddress, Text.trims_iff.mp htrims,
        Text.strips_iff.mp hstrips]
      simp [hne]
  · rintro rfl
    cases h : env.lookup identityName with
    | none => exact .unset h
    | some raw =>
      rw [Option.map_some]
      by_cases haddress : Text.baseAddress raw = ""
      · rw [haddress]
        exact .slashes h (Text.trims_trim raw) (Text.dropSlashes_eq_empty_iff.mp haddress)
      · rw [Option.filter_some, if_pos (by simpa using haddress)]
        exact .address h (Text.trims_trim raw) (Text.strips_iff.mpr rfl) haddress

end Variables

/-- What the variables say. -/
structure Describes (env : Environment) (settings : Settings) : Prop where
  endpoint : ∃ t, Gives env endpointName t ∧ Text.Strips t settings.endpoint
  token : Gives env tokenName settings.token
  identity : Identifies env settings.identityEndpoint
  timeout : Waits env settings.timeout

/-- The first variable that offends, of the endpoint, the token and the time to wait. -/
inductive Offends (env : Environment) : Fault → Prop where
  | endpoint : Lacks env endpointName → Offends env (.invalid "ROSTER_API_ENDPOINT is required")
  | token {e : String} : Gives env endpointName e → Lacks env tokenName →
      Offends env (.invalid "ROSTER_ACCESS_TOKEN is required")
  | timeout {e t : String} {f : Fault} : Gives env endpointName e → Gives env tokenName t →
      Stalls env f → Offends env f

variable {env : Environment} {settings : Settings} {f : Fault}

theorem load_eq_ok_iff : load env = .ok settings ↔ Describes env settings := by
  simp only [load, Json.bind_eq_ok_iff, required_eq_ok_iff, readTimeout_eq_ok_iff]
  constructor
  · rintro ⟨e, hendpoint, t, htoken, n, htimeout, hsettings⟩
    obtain rfl := Except.ok.inj hsettings
    exact ⟨⟨e, hendpoint, Text.strips_iff.mpr rfl⟩, htoken, identifies_iff.mpr rfl, htimeout⟩
  · rintro ⟨⟨e, hendpoint, hstrips⟩, htoken, hidentity, htimeout⟩
    refine ⟨e, hendpoint, settings.token, htoken, settings.timeout, htimeout, ?_⟩
    rw [Text.strips_iff.mp hstrips, identifies_iff.mp hidentity]
    rfl

theorem load_eq_error_iff : load env = .error f ↔ Offends env f := by
  simp only [load, Json.bind_eq_error_iff, required_eq_ok_iff, required_eq_error_iff,
    readTimeout_eq_error_iff]
  constructor
  · rintro (⟨hlacks, rfl⟩ | ⟨e, hendpoint, ⟨hlacks, rfl⟩ | ⟨t, htoken, hstalls | ⟨n, -, hdone⟩⟩⟩)
    · exact .endpoint hlacks
    · exact .token hendpoint hlacks
    · exact .timeout hendpoint htoken hstalls
    · cases hdone
  · intro h
    cases h with
    | endpoint hlacks => exact .inl ⟨hlacks, rfl⟩
    | token hendpoint hlacks => exact .inr ⟨_, hendpoint, .inl ⟨hlacks, rfl⟩⟩
    | timeout hendpoint htoken hstalls => exact .inr ⟨_, hendpoint, .inr ⟨_, htoken, .inl hstalls⟩⟩

theorem exists_load_eq_ok_iff :
    (∃ settings, load env = .ok settings) ↔
      (∃ e, Gives env endpointName e) ∧ (∃ t, Gives env tokenName t) ∧ ∃ n, Waits env n := by
  simp only [load_eq_ok_iff]
  constructor
  · rintro ⟨settings, ⟨e, hendpoint, -⟩, htoken, -, htimeout⟩
    exact ⟨⟨e, hendpoint⟩, ⟨_, htoken⟩, ⟨_, htimeout⟩⟩
  · rintro ⟨⟨e, hendpoint⟩, ⟨t, htoken⟩, ⟨n, htimeout⟩⟩
    exact ⟨⟨Text.dropSlashes e, t, _, n⟩, ⟨e, hendpoint, Text.strips_iff.mpr rfl⟩, htoken,
      identifies_iff.mpr rfl, htimeout⟩

/-- An environment gives settings exactly if it gives an endpoint, a token and a time to wait, and
it gives those settings that it describes. Otherwise the first of the three that is missing or wrong
is named. -/
theorem load_exact (env : Environment) :
    ((∃ settings, load env = .ok settings) ↔
      (∃ e, Gives env endpointName e) ∧ (∃ t, Gives env tokenName t) ∧ ∃ n, Waits env n) ∧
    (∀ settings, load env = .ok settings ↔ Describes env settings) ∧
    ∀ f, load env = .error f ↔ Offends env f :=
  ⟨exists_load_eq_ok_iff, fun _ => load_eq_ok_iff, fun _ => load_eq_error_iff⟩

/-- An environment with some time to wait, and nothing but slashes for an identity service. -/
def patient (timeout : String) : Environment :=
  [(endpointName, " http://api// "), (tokenName, " t "), (identityName, " // "),
    (timeoutName, timeout)]

theorem load_exact_patient :
    load (patient " +0018446744073709551615") =
        .ok ⟨"http://api", "t", none, 18446744073709551615⟩ ∧
      load (patient "18446744073709551616x") =
        .error (.invalid ("invalid ROSTER_HTTP_TIMEOUT_SECS value '18446744073709551616x': " ++
          "number too large to fit in target type")) := by
  have htoken : ∀ timeout, Gives (patient timeout) tokenName "t" := fun timeout =>
    ⟨by decide, " t ", rfl, Text.trims_iff.mpr (by decide)⟩
  have hendpoint : ∀ timeout, Gives (patient timeout) endpointName "http://api//" := fun timeout =>
    ⟨by decide, " http://api// ", rfl, Text.trims_iff.mpr (by decide)⟩
  have hgreatest : Writes "+0018446744073709551615".toList 18446744073709551615 :=
    ⟨"0018446744073709551615".toList, .inr (by decide), by decide, by decide, by decide⟩
  have hgreater : Writes "18446744073709551616".toList 18446744073709551616 :=
    ⟨_, .inl rfl, by decide, by decide, by decide⟩
  have hspoils : Spoils "18446744073709551616x".toList .tooLarge :=
    ⟨_, _, ⟨['x'], by decide⟩, hgreater, by decide⟩
  have hidentity : Identifies (patient " +0018446744073709551615") none :=
    .slashes (t := "//") rfl (Text.trims_iff.mpr (by decide)) (by simp)
  have hstalls : Stalls (patient "18446744073709551616x") _ :=
    .number rfl (Text.trims_iff.mpr (by decide)) hspoils
  constructor
  · exact ((load_exact _).2.1 _).mpr ⟨⟨_, hendpoint _, Text.strips_iff.mpr (by decide)⟩,
      htoken _, hidentity,
      .given rfl (Text.trims_iff.mpr (by decide)) hgreatest (by decide) (by decide)⟩
  · exact ((load_exact _).2.2 _).mpr (.timeout (hendpoint _) (htoken _) hstalls)

end Tenancy.Settings
