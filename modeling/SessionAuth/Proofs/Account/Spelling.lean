import SessionAuth.Proofs.Service.Permanence
import SessionAuth.Proofs.Text.LowerCase

/-!
# How an address is spelt

Texts that differ in the blanks around them and in the case of letters of ASCII are one spelling of
an address or of none. Sign-up and login do not tell them apart (`Service.spelling_irrelevant`):
they are the same programs for both, and who signed up with the one is let in with the other.
-/

namespace SessionAuth

/-! ### Spellings -/

/-- The texts agree but for the blanks around them and the case of letters of ASCII. All other
characters are the same in both. -/
def Text.SameSpelling (x y : String) : Prop :=
  (trimList x.toList).map Char.toLower = (trimList y.toList).map Char.toLower

instance : DecidableRel Text.SameSpelling := fun _ _ => instDecidableEqList _ _

theorem Text.SameSpelling.normalize_eq {x y : String} (h : SameSpelling x y) :
    Email.normalize x = Email.normalize y := by
  refine toLower_congr ?_
  simp only [trim, String.toList_ofList]
  exact h

theorem Text.SameSpelling.ofText_eq {x y : String} (h : SameSpelling x y) :
    Email.ofText x = Email.ofText y :=
  Email.ofText_congr h.normalize_eq

namespace Service

variable {s : Service} {st : Store} {u : User} {text x y : String}

/-! ### The account that a text names -/

/-- Sign-up and login take the text for the address of the user: a sign-up is told that it is taken,
and a login lets the user in who gives the password. -/
structure Names (s : Service) (st : Store) (text : String) (u : User) : Prop where
  taken : ∀ fresh password, ∃ events, s.runAlone fresh (.signUp text password) st =
    ⟨.finished (.error .emailTaken), ⟨st, none⟩, false, events⟩
  admitted : ∀ fresh password device f access, Fingerprint.ofText device = .ok f →
    s.accessFor fresh password u = .ok access → fresh.tokenId ∉ st.tokens →
    ∃ events, s.runAlone fresh (.login text password device) st =
      ⟨.finished (.ok (.session ⟨access, fresh.tokenId, s.policy.lifetime⟩)),
        ⟨(st.makeRoom s.policy.quota u.id).putToken (s.newToken fresh u.id f), none⟩, false, events⟩

theorem names_of_registered (s : Service) (hst : st.IsConsistent) (hu : st.users[u.id]? = some u)
    (he : Email.ofText text = .ok u.email) : s.Names st text u where
  taken fresh password := by
    obtain ⟨events, hrun⟩ := s.runAlone_eq fresh (.signUp text password) hst
    refine ⟨events, hrun.trans ?_⟩
    simp only [performOn, signUpOn_of_registered hst hu he, settle, Except.map]
  admitted _ _ _ _ _ hf ha hnew := runAlone_login hst hu hf he ha hnew

/-- Who has just signed up is named by the text of the sign-up. -/
theorem registered_of_runAlone {fresh : Fresh} {password : String} {v : Vault} {i : Bool}
    {events : List Event} (hst : st.IsConsistent)
    (h : s.runAlone fresh (.signUp text password) st =
      ⟨.finished (.ok (.account u)), v, i, events⟩) :
    v.store.IsConsistent ∧ v.store.users[u.id]? = some u ∧ Email.ofText text = .ok u.email := by
  obtain ⟨events', hrun⟩ := s.runAlone_eq fresh (.signUp text password) hst
  have hconsistent := s.isConsistent_performOn fresh (.signUp text password) hst
  rw [h] at hrun
  cases hx : s.signUpOn fresh text password st with
  | error e => simp [performOn, hx, settle, Except.map] at hrun
  | ok r =>
    obtain ⟨w, st'⟩ := r
    simp only [performOn, hx, settle, Except.map, Program.Run.mk.injEq,
      Program.Rest.finished.injEq, Except.ok.injEq, Outcome.account.injEq] at hrun hconsistent
    obtain ⟨rfl, rfl, -, -⟩ := hrun
    obtain ⟨he, hadd⟩ := signUpOn_eq_ok hx
    obtain ⟨-, -, rfl⟩ := Store.addUser_eq_ok_iff.1 hadd
    exact ⟨hconsistent, by simp, he⟩

/-! ### The spelling of a name -/

/-- Texts that differ in the blanks around them and in the case of letters of ASCII are the same
address, or no address for the same reason. Sign-up and login with the one are the programs that
they are with the other, and an account that is registered under the one, or was just opened with
it, is the account of the other. -/
theorem spelling_irrelevant (s : Service) (h : Text.SameSpelling x y) :
    Email.ofText x = Email.ofText y ∧
    (∀ fresh password, s.signUp fresh x password = s.signUp fresh y password) ∧
    (∀ fresh password device, s.login fresh x password device = s.login fresh y password device) ∧
    ∀ st, st.IsConsistent →
      (∀ u, st.users[u.id]? = some u → Email.ofText x = .ok u.email → s.Names st y u) ∧
      ∀ fresh password u v i events, s.runAlone fresh (.signUp x password) st =
        ⟨.finished (.ok (.account u)), v, i, events⟩ → s.Names v.store y u := by
  have heq := h.ofText_eq
  have hwithin (fresh password f) :
      s.loginWithin fresh x password f = s.loginWithin fresh y password f := by
    unfold loginWithin
    rw [heq]
  refine ⟨heq, fun fresh password => ?_, fun fresh password device => ?_, fun st hst => ⟨?_, ?_⟩⟩
  · unfold signUp
    rw [heq]
  · unfold login
    simp only [hwithin]
  · intro u hu he
    exact s.names_of_registered hst hu (heq ▸ he)
  · intro fresh password u v i events hrun
    obtain ⟨hconsistent, hu, he⟩ := registered_of_runAlone hst hrun
    exact s.names_of_registered hconsistent hu (heq ▸ he)

/-- A sign-up and a login that spell a name with a sigma and a dotted capital in different ways. -/
theorem spelling_irrelevant_greek : ∃ u session v w events events',
    least.runAlone (.numbered 1) (.signUp "\u3000ΟΔΟΣ.İda@B.cc" "correct horse") .empty =
      ⟨.finished (.ok (.account u)), v, false, events⟩ ∧
    least.Names v.store "ΟΔΟΣ.İDA@b.CC " u ∧
    least.runAlone (.numbered 2) (.login "ΟΔΟΣ.İDA@b.CC " "correct horse" "laptop") v.store =
      ⟨.finished (.ok (.session session)), w, false, events'⟩ := by
  have hsame : Text.SameSpelling "\u3000ΟΔΟΣ.İda@B.cc" "ΟΔΟΣ.İDA@b.CC " := by decide +kernel
  have he : Email.ofText "\u3000ΟΔΟΣ.İda@B.cc" = .ok ⟨"οδοσ.i̇da@b.cc"⟩ := by decide +kernel
  let u := least.newUser (.numbered 1) ⟨"οδοσ.i̇da@b.cc"⟩ ⟨"correct horse"⟩
  have hfree := Store.userByEmail?_empty ⟨"οδοσ.i̇da@b.cc"⟩
  have hsignUp : least.signUpOn (.numbered 1) "\u3000ΟΔΟΣ.İda@B.cc" "correct horse" .empty =
      .ok (u, .ofUser u) := by
    unfold signUpOn
    rw [he, takes_ada.password]
    dsimp only
    rw [hfree]
    dsimp only
    rw [Store.addUser_empty]
    rfl
  obtain ⟨events, hrun⟩ := least.runAlone_eq (.numbered 1)
    (.signUp "\u3000ΟΔΟΣ.İda@B.cc" "correct horse") Store.isConsistent_empty
  simp only [performOn, hsignUp, settle, Except.map] at hrun
  obtain ⟨-, -, -, hstores⟩ := least.spelling_irrelevant hsame
  have hnames := (hstores .empty Store.isConsistent_empty).2 _ _ _ _ _ _ hrun
  obtain ⟨access, ha⟩ := accessFor_newUser isUsable_least takes_ada.password
    (Fresh.length_salt_numbered 1) (.numbered 2) ⟨"οδοσ.i̇da@b.cc"⟩
  have hnew : (Fresh.numbered 2).tokenId ∉ (Store.ofUser u).tokens :=
    Store.tokens_eq_none_iff.1 (Store.tokens_ofUser u _)
  obtain ⟨events', hlogin⟩ := hnames.admitted (.numbered 2) "correct horse" "laptop" _ access
    takes_ada.device ha hnew
  exact ⟨u, _, _, _, events, events', hrun, hnames, hlogin⟩

end Service

end SessionAuth
