import Tenancy.CommandLine.Usage
import Tenancy.Proofs.Directory.Holders
import Tenancy.Proofs.Text.Trimming

/-!
# The one form of an identifier

A text names what stands between the blanks around it, or nothing. So there is one form of every
identifier, wherever it comes from: read again it is the same, a command line names it by the same
texts, and members and accounts whose ids were sent with different blanks are joined
(`identifiers_canonical`).
-/

namespace Tenancy

namespace Identifier

variable {kind : Kind} {s s' t t' : String} {a a' : Identifier kind}

/-- A text is checked for what stands between its blanks only. -/
theorem check_congr (kind : Kind) (h : Text.trim s = Text.trim s') :
    check kind s = check kind s' := by
  simp only [check, h]

theorem of?_eq_ok_iff : of? kind s = .ok a ↔ Text.Trims s a.text := by
  have hcheck : check kind s = .ok a ↔ Text.trim s = a.text := by
    constructor
    · exact fun h => (text_of_check h).symm
    · intro h
      rw [check_congr kind (h.trans a.trim_text.symm), check_text]
  rw [Text.trims_iff, ← hcheck, of?]
  cases check kind s <;> simp [Except.mapError]

theorem exists_of?_iff (h : Text.Trims s t) :
    (∃ a, of? kind s = .ok a) ↔ t ≠ "" ∧ '/' ∉ t.toList := by
  obtain rfl := Text.trims_iff.mp h
  constructor
  · rintro ⟨a, ha⟩
    rw [Text.trims_iff.mp (of?_eq_ok_iff.mp ha)]
    exact ⟨a.text_ne, a.slash_notMem⟩
  · rintro ⟨hne, hslash⟩
    exact ⟨⟨Text.trim s, Text.trim_trim s, hne, hslash⟩, of?_eq_ok_iff.mpr (Text.trims_trim s)⟩

theorem of?_of_empty (h : Text.Trims s "") :
    of? kind s = .error (.invalid s!"{kind.label} must not be empty") := by
  rw [of?, check, dif_pos (Text.trims_iff.mp h)]
  rfl

theorem of?_of_slash (h : Text.Trims s t) (hne : t ≠ "") (hslash : '/' ∈ t.toList) :
    of? kind s = .error (.invalid s!"{kind.label} '{t}' must not contain '/'") := by
  obtain rfl := Text.trims_iff.mp h
  rw [of?, check, dif_neg hne, dif_pos hslash]
  rfl

theorem eq_iff_of_trims (ha : of? kind s = .ok a) (ha' : of? kind s' = .ok a')
    (h : Text.Trims s t) (h' : Text.Trims s' t') : a = a' ↔ t = t' := by
  rw [Identifier.ext_iff, ← Text.trims_iff.mp (of?_eq_ok_iff.mp ha),
    ← Text.trims_iff.mp (of?_eq_ok_iff.mp ha'), Text.trims_iff.mp h, Text.trims_iff.mp h']

end Identifier

namespace CommandLine

section Values

variable (last : Option (Parameter × String)) (values rest : List String) (s : String)

theorem readValues_optionsEnd (parameters : List Parameter) :
    readValues parameters last false values ("--" :: rest) =
      readValues parameters last true values rest := by
  rw [readValues]
  rfl

theorem readValues_nil (parameters : List Parameter) :
    readValues parameters last true values [] =
      checkValue last >>= fun _ =>
        if parameters.isEmpty then pure values else throw .argumentMissing := by
  rw [readValues]

/-- Behind the end of the options every word is a value. -/
theorem readValues_value (p : Parameter) (parameters : List Parameter) :
    readValues (p :: parameters) last true values (s :: rest) =
      checkValue last >>= fun _ =>
        readValues parameters (some (p, s)) true (values ++ [s]) rest := by
  rw [readValues]
  all_goals simp

/-- Values that may be any text are taken as they are. -/
theorem readValues_texts (labels : List String) (h : rest.length = labels.length) :
    readValues (labels.map .text) last true values rest =
      checkValue last >>= fun _ => pure (values ++ rest) := by
  induction labels generalizing last values rest with
  | nil =>
    obtain rfl := List.length_eq_zero_iff.mp h
    simp [readValues_nil]
  | cons label labels ih =>
    obtain ⟨s, rest, rfl⟩ := List.exists_cons_of_length_eq_add_one h
    rw [List.map_cons, readValues_value, ih _ _ _ (by simpa using h), List.append_assoc]
    rfl

/-- A command whose first value is an identifier and whose other values are texts. -/
theorem parse_identifier {form : Usage.Form} {kind : Identifier.Kind} (name : String)
    (labels : List String) (hform : form? name = some form) (hword : Word.of name = .value)
    (hhelp : name ≠ helpCommand)
    (hparameters : form.parameters = .identifier kind :: labels.map .text)
    (hrest : rest.length = labels.length) :
    parse (name :: "--" :: s :: rest) =
      if (Parameter.identifier kind).accepts s then
        match form.command? (s :: rest) with
        | some c => .ok c
        | none => .error .valueInvalid
      else .error .valueInvalid := by
  simp only [parse, hword, hform, if_neg hhelp, readValues_optionsEnd, hparameters,
    readValues_value, readValues_texts _ _ rest labels hrest, checkValue]
  cases (Parameter.identifier kind).accepts s <;> rfl

end Values

/-- Words of a command line with a text for an identifier among them. -/
def naming (role s : String) : Identifier.Kind → List String
  | .user => ["delete-user", "--", s]
  | .organization => ["org-users", "--", s, role]
  | .space => ["space-users", "--", s, role]

/-- The command that they are for. -/
def named (role : String) : (kind : Identifier.Kind) → Identifier kind → Command
  | .user, id => .deleteUser id
  | .organization, id => .organizationUsers id role
  | .space, id => .spaceUsers id role

theorem parse_naming (role s : String) (kind : Identifier.Kind) :
    parse (naming role s kind) =
      match Identifier.of? kind s with
      | .ok id => .ok (named role kind id)
      | .error _ => .error .valueInvalid := by
  cases kind with
  | user =>
    rw [naming, parse_identifier [] s "delete-user" [] rfl rfl (by decide) rfl rfl]
    cases h : Identifier.check .user s <;> simp [Parameter.accepts, Identifier.of?, h] <;> rfl
  | organization =>
    rw [naming, parse_identifier [role] s "org-users" ["ROLE"] rfl rfl (by decide) rfl rfl]
    cases h : Identifier.check .organization s <;>
      simp [Parameter.accepts, Identifier.of?, h] <;> rfl
  | space =>
    rw [naming, parse_identifier [role] s "space-users" ["ROLE"] rfl rfl (by decide) rfl rfl]
    cases h : Identifier.check .space s <;> simp [Parameter.accepts, Identifier.of?, h] <;> rfl

end CommandLine

/-- Members under the ids that they were sent with. -/
abbrev Member.Sent (users : List (String × Bool)) (members : List Member) : Prop :=
  List.Forall₂ (fun user m => Identifier.of? .user user.1 = .ok m.id ∧ user.2 = m.isAdmin)
    users members

/-- Accounts under the ids that they were sent with. -/
abbrev Account.Sent (entries : List (String × String)) (accounts : List Account) : Prop :=
  List.Forall₂ (fun e a => Identifier.of? .user e.1 = .ok a.id ∧ e.2 = a.username)
    entries accounts

theorem Member.Sent.matches {users : List (String × Bool)} {members : List Member}
    (h : Member.Sent users members) : Directory.Matches members users := by
  induction h with
  | nil => rfl
  | cons hm _ ih =>
    have htext := Text.trims_iff.mp (Identifier.of?_eq_ok_iff.mp hm.1)
    simp only [Directory.Matches, List.map_cons, htext, hm.2, ih]

theorem Account.Sent.map_eq {entries : List (String × String)} {accounts : List Account}
    (h : Account.Sent entries accounts) :
    accounts.map (fun a => (a.id.text, a.username)) =
      entries.map fun e => (Text.trim e.1, e.2) := by
  induction h with
  | nil => rfl
  | cons ha _ ih =>
    have htext := Text.trims_iff.mp (Identifier.of?_eq_ok_iff.mp ha.1)
    simp only [List.map_cons, htext, ha.2, ih]

namespace Identifier

/-- The identifiers of a kind have one form each: what stands between the blanks around a text. -/
structure IsCanonical (kind : Kind) : Prop where
  accepts : ∀ s t, Text.Trims s t →
    ((∃ a : Identifier kind, of? kind s = .ok a) ↔ t ≠ "" ∧ '/' ∉ t.toList)
  empty : ∀ s, Text.Trims s "" → of? kind s = .error (.invalid s!"{kind.label} must not be empty")
  slash : ∀ s t, Text.Trims s t → t ≠ "" → '/' ∈ t.toList →
    of? kind s = .error (.invalid s!"{kind.label} '{t}' must not contain '/'")
  holds : ∀ s (a : Identifier kind), of? kind s = .ok a → Text.Trims s a.text
  again : ∀ s (a : Identifier kind), of? kind s = .ok a → of? kind a.text = .ok a
  equal : ∀ s s' t t' (a a' : Identifier kind), of? kind s = .ok a → of? kind s' = .ok a' →
    Text.Trims s t → Text.Trims s' t' → (a = a' ↔ t = t')
  read : ∀ role s, CommandLine.parse (CommandLine.naming role s kind) =
    match of? kind s with
    | .ok a => .ok (CommandLine.named role kind a)
    | .error _ => .error .valueInvalid

/-- Every text has one text between the blanks around it, and identifiers of all kinds have no other
form. So accounts find their members by the trimmed ids, whatever blanks the ids were sent with. -/
theorem identifiers_canonical :
    (∀ s, ∃! t, Text.Trims s t) ∧ (∀ kind, IsCanonical kind) ∧
      ∀ users members entries accounts, Member.Sent users members → Account.Sent entries accounts →
        (Record.join members accounts).map (fun r => (r.id.text, r.username, r.isAdmin)) =
          entries.map fun e =>
            (Text.trim e.1, some e.2, Directory.isAdminAmong users (Text.trim e.1)) := by
  refine ⟨?trims, ?canonical, ?join⟩
  case trims =>
    intro s
    exact ⟨Text.trim s, Text.trims_trim s, fun t ht => (Text.trims_iff.mp ht).symm⟩
  case canonical =>
    intro kind
    refine ⟨fun s t => exists_of?_iff, fun s => of?_of_empty, fun s t => of?_of_slash,
      fun s a => of?_eq_ok_iff.mp, ?_, fun s s' t t' a a' => eq_iff_of_trims,
      fun role s => CommandLine.parse_naming role s kind⟩
    intro s a _
    rw [of?_eq_ok_iff, Text.trims_iff, a.trim_text]
  case join =>
    intro users members entries accounts hmembers haccounts
    exact Directory.map_join hmembers.matches haccounts.map_eq

/-- An id between an ideographic space and a next line. -/
def wideText : String :=
  "\u3000k1\u0085"

/-- A zero width space is no blank. -/
theorem identifiers_canonical_wide :
    ∃ a a' : UserId, of? .user wideText = .ok a ∧ of? .user "k1 " = .ok a ∧
      of? .user "\u200bk1" = .ok a' ∧ a ≠ a' ∧
      CommandLine.parse ["delete-user", "--", wideText] = .ok (.deleteUser a) ∧
      (Record.join [⟨a', false⟩, ⟨a, true⟩] [⟨a, "ann"⟩]).map
          (fun r => (r.id.text, r.username, r.isAdmin)) = [("k1", some "ann", true)] := by
  obtain ⟨-, canonical, join⟩ := identifiers_canonical
  have htrims : Text.Trims wideText "k1" := Text.trims_iff.mpr (by decide)
  have htrims' : Text.Trims "k1 " "k1" := Text.trims_iff.mpr (by decide)
  have hthin : Text.Trims "\u200bk1" "\u200bk1" := Text.trims_iff.mpr (by decide)
  obtain ⟨a, ha⟩ := ((canonical .user).accepts _ _ htrims).mpr (by decide)
  obtain ⟨b, hb⟩ := ((canonical .user).accepts _ _ htrims').mpr (by decide)
  obtain ⟨a', ha'⟩ := ((canonical .user).accepts _ _ hthin).mpr (by decide)
  obtain rfl : a = b := ((canonical .user).equal _ _ _ _ a b ha hb htrims htrims').mpr rfl
  have hne : a ≠ a' :=
    mt ((canonical .user).equal _ _ _ _ a a' ha ha' htrims hthin).mp (by decide)
  have hread := (canonical .user).read "" wideText
  rw [ha] at hread
  refine ⟨a, a', ha, hb, ha', hne, hread, ?_⟩
  have hmembers : Member.Sent [("\u200bk1", false), (wideText, true)] [⟨a', false⟩, ⟨a, true⟩] :=
    .cons ⟨ha', rfl⟩ (.cons ⟨ha, rfl⟩ .nil)
  have haccounts : Account.Sent [("k1 ", "ann")] [⟨a, "ann"⟩] := .cons ⟨hb, rfl⟩ .nil
  rw [join _ _ _ _ hmembers haccounts]
  decide

end Identifier

end Tenancy
