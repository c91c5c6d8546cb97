/-
**What a summary tells of the secrets.**

Two settings are openly the same (`SameOpen`) if they agree in all that is no secret, down to the number of
overrides and the addresses of each. Of their secrets a summary tells which are empty, and nothing more:

* `Tells` — two texts that are the same exactly if something holds, wherever they stand; it is closed
  under appending and joining, and so goes from a secret to the record that holds it;
* `summary_eq_iff` — so the summaries of settings that are openly the same are the same exactly if the same
  secrets are empty in both (`SameMasks`).
-/

import AlarmFeed.Settings.Summary
import Mathlib.Data.List.Forall2

namespace AlarmFeed

/-! ### Settings that differ in their secrets alone -/

/-- Both secrets are empty, or neither is. -/
def Secret.SameMask (a b : Secret) : Prop :=
  a.content = [] ↔ b.content = []

/-- The same but for the token. -/
structure MonitorSettings.SameOpen (a b : MonitorSettings) : Prop where
  url : a.url = b.url
  timeout : a.timeout = b.timeout
  verifyTls : a.verifyTls = b.verifyTls

def MonitorSettings.SameMasks (a b : MonitorSettings) : Prop :=
  a.token.SameMask b.token

/-- The same addresses, whatever the tokens. -/
def TokenOverride.SameOpen (a b : TokenOverride) : Prop :=
  a.allowedAddresses = b.allowedAddresses

def TokenOverride.SameMasks (a b : TokenOverride) : Prop :=
  a.bearer.SameMask b.bearer ∧ a.token.SameMask b.token

/-- As many overrides, each with the same addresses. -/
structure AuthSettings.SameOpen (a b : AuthSettings) : Prop where
  forwardBearer : a.forwardBearer = b.forwardBearer
  overrides : List.Forall₂ TokenOverride.SameOpen a.overrides b.overrides

def AuthSettings.SameMasks (a b : AuthSettings) : Prop :=
  List.Forall₂ TokenOverride.SameMasks a.overrides b.overrides

/-- **Openly the same settings**: they agree in all that is no secret. -/
structure Settings.SameOpen (a b : Settings) : Prop where
  monitor : a.monitor.SameOpen b.monitor
  server : a.server = b.server
  auth : a.auth.SameOpen b.auth
  log : a.log = b.log

/-- **The same secrets are empty** in both settings. -/
def Settings.SameMasks (a b : Settings) : Prop :=
  a.monitor.SameMasks b.monitor ∧ a.auth.SameMasks b.auth

/-! ### Texts that tell -/

/-- **Two texts tell whether something holds**: wherever they stand, they and what follows are the same
exactly if it holds and the same follows. -/
def Tells (holds : Prop) (s t : Text) : Prop :=
  ∀ u v, s ++ u = t ++ v ↔ holds ∧ u = v

section Texts

variable {holds also : Prop} {s t s' t' : Text}

theorem Tells.eq_iff (tells : Tells holds s t) : s = t ↔ holds := by
  have alone := tells [] []
  rwa [List.append_nil, List.append_nil, and_iff_left rfl] at alone

theorem Tells.congr (tells : Tells holds s t) (same : holds ↔ also) : Tells also s t := by
  intro u v
  rw [tells, same]

theorem tells_self (t : Text) : Tells True t t := by
  intro u v
  rw [List.append_cancel_left_eq, true_and]

/-- A text tells with what is told behind it. -/
theorem Tells.append (tells : Tells holds s t) (behind : Tells also s' t') :
    Tells (holds ∧ also) (s ++ s') (t ++ t') := by
  intro u v
  rw [List.append_assoc, List.append_assoc, tells, behind, and_assoc]

end Texts

/-- **Joined texts tell** what each of them tells. -/
theorem tells_joinWith {α : Type} {given holds : α → α → Prop} {write : α → Text}
    (each : ∀ a b, given a b → Tells (holds a b) (write a) (write b)) (separator : Text)
    {first second : List α} (same : List.Forall₂ given first second) :
    Tells (List.Forall₂ holds first second) (Text.joinWith separator (first.map write))
      (Text.joinWith separator (second.map write)) := by
  induction same with
  | nil => exact (tells_self []).congr (iff_of_true trivial .nil)
  | cons one later ih =>
    cases later with
    | nil =>
      refine (each _ _ one).congr ?_
      rw [List.forall₂_cons, and_iff_left .nil]
    | cons next later =>
      refine (((each _ _ one).append (tells_self separator)).append ih).congr ?_
      rw [and_true]
      exact List.forall₂_cons.symm

/-! ### Records -/

/-- A field of a record: its name, and a value that tells whether it is the same. -/
def SameField (f g : Text × Text) : Prop :=
  f.1 = g.1 ∧ Tells (f.2 = g.2) f.2 g.2

theorem sameField_self (field : Text × Text) : SameField field field :=
  ⟨rfl, (tells_self field.2).congr (iff_of_true trivial rfl)⟩

theorem Tells.sameField {holds : Prop} {s t : Text} (tells : Tells holds s t) (name : Text) :
    SameField (name, s) (name, t) :=
  ⟨rfl, tells.congr tells.eq_iff.symm⟩

/-- **A record tells** which of its values are the same. -/
theorem tells_summaryOf (title : Text) {first second : List (Text × Text)}
    (same : List.Forall₂ SameField first second) :
    Tells (List.Forall₂ (fun f g => f.2 = g.2) first second) (summaryOf title first)
      (summaryOf title second) := by
  have field : ∀ f g : Text × Text, SameField f g →
      Tells (f.2 = g.2) (f.1 ++ ("=" : Text) ++ f.2) (g.1 ++ ("=" : Text) ++ g.2) := by
    rintro ⟨name, s⟩ ⟨_, t⟩ ⟨rfl, tells⟩
    exact ((tells_self _).append tells).congr (by rw [true_and])
  have inside := tells_joinWith field ", " same
  have whole := ((tells_self (title ++ ("(" : Text))).append inside).append (tells_self (")" : Text))
  exact whole.congr (by rw [true_and, and_true])

theorem tells_listSummary {α : Type} {given holds : α → α → Prop} {write : α → Text}
    (each : ∀ a b, given a b → Tells (holds a b) (write a) (write b)) {first second : List α}
    (same : List.Forall₂ given first second) :
    Tells (List.Forall₂ holds first second) (listSummary (first.map write))
      (listSummary (second.map write)) := by
  have inside := tells_joinWith each ", " same
  have whole := ((tells_self ("[" : Text)).append inside).append (tells_self ("]" : Text))
  exact whole.congr (by rw [true_and, and_true])

/-! ### Secrets and settings -/

/-- The quote that closes the empty mask stands where the other has a star. -/
theorem masks_apart (u v : Text) :
    ("SecretStr('')" : Text) ++ u ≠ ("SecretStr('**********')" : Text) ++ v := by
  intro same
  have start := congrArg (List.take 12) same
  rw [List.take_append_of_le_length (by decide), List.take_append_of_le_length (by decide)] at start
  exact absurd start (by decide)

/-- **A mask tells** whether the secret behind it is empty. -/
theorem Secret.tells_summary (a b : Secret) : Tells (a.SameMask b) a.summary b.summary := by
  intro u v
  rw [SameMask, summary, summary]
  by_cases emptyA : a.content = [] <;> by_cases emptyB : b.content = []
  · rw [if_pos emptyA, if_pos emptyB, List.append_cancel_left_eq, and_iff_right (iff_of_true emptyA emptyB)]
  · rw [if_pos emptyA, if_neg emptyB]
    exact iff_of_false (masks_apart u v) fun both => emptyB (both.1.mp emptyA)
  · rw [if_neg emptyA, if_pos emptyB]
    exact iff_of_false (masks_apart v u).symm fun both => emptyA (both.1.mpr emptyB)
  · rw [if_neg emptyA, if_neg emptyB, List.append_cancel_left_eq,
      and_iff_right (iff_of_false emptyA emptyB)]

theorem MonitorSettings.tells_summary (a b : MonitorSettings) (same : a.SameOpen b) :
    Tells (a.SameMasks b) a.summary b.summary := by
  have token := a.token.tells_summary b.token
  rw [summary, summary, same.url, same.timeout, same.verifyTls]
  refine (tells_summaryOf "ZabbixConfig" (.cons (sameField_self _) (.cons (token.sameField "api_token")
    (.cons (sameField_self _) (.cons (sameField_self _) .nil))))).congr ?_
  simp only [List.forall₂_cons, List.forall₂_nil_left_iff, true_and, and_true]
  exact token.eq_iff

theorem TokenOverride.tells_summary (a b : TokenOverride) (same : a.SameOpen b) :
    Tells (a.SameMasks b) a.summary b.summary := by
  have bearer := a.bearer.tells_summary b.bearer
  have token := a.token.tells_summary b.token
  have addresses : a.allowedAddresses = b.allowedAddresses := same
  rw [summary, summary, addresses]
  refine (tells_summaryOf "TokenOverride" (.cons (bearer.sameField "bearer") (.cons (sameField_self _)
    (.cons (token.sameField "api_token") .nil)))).congr ?_
  simp only [List.forall₂_cons, List.forall₂_nil_left_iff, true_and, and_true]
  exact and_congr bearer.eq_iff token.eq_iff

theorem AuthSettings.tells_summary (a b : AuthSettings) (same : a.SameOpen b) :
    Tells (a.SameMasks b) a.summary b.summary := by
  have overrides := tells_listSummary TokenOverride.tells_summary same.overrides
  rw [summary, summary, same.forwardBearer]
  refine (tells_summaryOf "AuthConfig" (.cons (sameField_self _)
    (.cons (overrides.sameField "overrides") .nil))).congr ?_
  simp only [List.forall₂_cons, List.forall₂_nil_left_iff, true_and, and_true]
  exact overrides.eq_iff

theorem Settings.tells_summary (a b : Settings) (same : a.SameOpen b) :
    Tells (a.SameMasks b) a.summary b.summary := by
  have monitor := MonitorSettings.tells_summary _ _ same.monitor
  have auth := AuthSettings.tells_summary _ _ same.auth
  rw [summary, summary, same.server, same.log]
  refine (tells_summaryOf "Settings" (.cons (monitor.sameField "zabbix") (.cons (sameField_self _)
    (.cons (auth.sameField "auth") (.cons (sameField_self _) .nil))))).congr ?_
  simp only [List.forall₂_cons, List.forall₂_nil_left_iff, true_and, and_true]
  exact and_congr monitor.eq_iff auth.eq_iff

/-- **A summary tells of the secrets only which are empty.** Of two settings of one kind, or of two
overrides, that are openly the same the summaries are the same exactly if the same secrets are empty in
both, whatever else the secrets are. -/
theorem summary_eq_iff :
    (∀ a b : MonitorSettings, a.SameOpen b → (a.summary = b.summary ↔ a.SameMasks b)) ∧
      (∀ a b : TokenOverride, a.SameOpen b → (a.summary = b.summary ↔ a.SameMasks b)) ∧
      (∀ a b : AuthSettings, a.SameOpen b → (a.summary = b.summary ↔ a.SameMasks b)) ∧
      (∀ a b : Settings, a.SameOpen b → (a.summary = b.summary ↔ a.SameMasks b)) := by
  refine ⟨?_, ?_, ?_, ?_⟩
  · exact fun a b same => (MonitorSettings.tells_summary a b same).eq_iff
  · exact fun a b same => (TokenOverride.tells_summary a b same).eq_iff
  · exact fun a b same => (AuthSettings.tells_summary a b same).eq_iff
  · exact fun a b same => (Settings.tells_summary a b same).eq_iff

/-- Settings with one override, which stands for an empty token. -/
def withSecrets (token bearer : Text) : Settings :=
  { monitor := { token := ⟨token⟩ }
    auth := { overrides := [{ bearer := ⟨bearer⟩, allowedAddresses := ["192.0.2.10"], token := ⟨[]⟩ }] } }

/-- Another token and another bearer make no difference; an empty bearer does. -/
theorem withSecrets_summary :
    (withSecrets "a" "b").SameOpen (withSecrets "secret" "letmein") ∧
      (withSecrets "a" "b").summary = (withSecrets "secret" "letmein").summary ∧
      (withSecrets "a" "b").summary ≠ (withSecrets "a" []).summary := by
  have openly : ∀ token bearer token' bearer',
      (withSecrets token bearer).SameOpen (withSecrets token' bearer') := fun _ _ _ _ =>
    ⟨⟨rfl, rfl, rfl⟩, rfl, ⟨rfl, .cons rfl .nil⟩, rfl⟩
  have exactly := summary_eq_iff.2.2.2
  have masked : (withSecrets "a" "b").SameMasks (withSecrets "secret" "letmein") :=
    ⟨iff_of_false (by decide) (by decide),
      .cons ⟨iff_of_false (by decide) (by decide), Iff.rfl⟩ .nil⟩
  refine ⟨openly _ _ _ _, (exactly _ _ (openly _ _ _ _)).mpr masked, fun same => ?_⟩
  obtain ⟨_, overrides⟩ := (exactly _ _ (openly _ _ _ _)).mp same
  obtain ⟨⟨bearer, _⟩, _⟩ := List.forall₂_cons.mp overrides
  exact absurd (bearer.mpr rfl) (by decide)

end AlarmFeed
