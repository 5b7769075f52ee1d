import Mathlib.Logic.Function.Basic
import SessionAuth.Proofs.Config.Server
import SessionAuth.Proofs.Text.Blank

/-!
# Blanks in the environment

A variable with nothing but blanks is as good as none (`Server.read_congr`). Blanks around the value of
a variable that is read by a parser change nothing where the value is trimmed first
(`Server.read_of_padsTo`). This is done for all of them but the policy for the cookie, which is looked
up as it stands: with any blank at its ends it is unknown (`Server.blanks_ignored`).
-/

namespace SessionAuth.Config

/-- The variables whose values are read by a parser. -/
def Variable.typed : List Variable :=
  [algorithm, quota, accessLifetime, refreshLifetime, https, sameSite, pepper, address, timeout]

/-- A text with any blanks around it. -/
def IsPadded (raw padded : String) : Prop :=
  ∃ before after : String, padded = before ++ raw ++ after ∧
    Text.isBlankText before = true ∧ Text.isBlankText after = true

namespace Environment

/-- Some variables with nothing but blanks are left out. -/
def DropsTo (env env' : Environment) : Prop :=
  ∀ v, env' v = env v ∨ env' v = none ∧ ∃ raw, env v = some raw ∧ Text.isBlankText raw = true

/-- The values of some variables that are read by a parser are given with blanks around them. -/
def PadsTo (env env' : Environment) : Prop :=
  ∀ v, env' v = env v ∨ v ∈ Variable.typed ∧ ∃ raw padded,
    env v = some raw ∧ Text.isBlankText raw = false ∧ env' v = some padded ∧ IsPadded raw padded

variable {env : Environment} {v : Variable} {raw padded : String}

/-- One variable may be left out. -/
theorem dropsTo_update (hraw : env v = some raw) (hblank : Text.isBlankText raw = true) :
    env.DropsTo (Function.update env v none) := by
  intro w
  by_cases hw : w = v
  · subst hw
    exact .inr ⟨Function.update_self .., raw, hraw, hblank⟩
  · exact .inl (Function.update_of_ne hw ..)

/-- One value may be given with blanks around it. -/
theorem padsTo_update (hv : v ∈ Variable.typed) (hraw : env v = some raw)
    (hblank : Text.isBlankText raw = false) (hpad : IsPadded raw padded) :
    env.PadsTo (Function.update env v (some padded)) := by
  intro w
  by_cases hw : w = v
  · subst hw
    exact .inr ⟨hv, raw, padded, hraw, hblank, Function.update_self .., hpad⟩
  · exact .inl (Function.update_of_ne hw ..)

end Environment

namespace IsPadded

variable {raw padded : String}

theorem trim_eq (h : IsPadded raw padded) : Text.trim padded = Text.trim raw := by
  obtain ⟨before, after, rfl, hbefore, hafter⟩ := h
  rw [Text.trim, String.toList_append, String.toList_append,
    Text.trimList_append_of_blank (List.all_eq_true.1 hbefore) (List.all_eq_true.1 hafter)]
  rfl

theorem isBlankText_eq (h : IsPadded raw padded) :
    Text.isBlankText padded = Text.isBlankText raw := by
  obtain ⟨before, after, rfl, hbefore, hafter⟩ := h
  rw [Text.isBlankText_append, Text.isBlankText_append, hbefore, hafter, Bool.true_and,
    Bool.and_true]

/-- What is not the text itself has a blank at one of its ends. -/
theorem exists_blank (h : IsPadded raw padded) (hne : padded ≠ raw) :
    ∃ c ∈ padded.toList, Text.isBlank c = true := by
  obtain ⟨before, after, rfl, hbefore, hafter⟩ := h
  have hends : before.toList ++ after.toList ≠ [] := by
    intro hnil
    obtain ⟨hb, ha⟩ := List.append_eq_nil_iff.1 hnil
    refine hne (String.toList_inj.1 ?_)
    rw [String.toList_append, String.toList_append, hb, ha, List.nil_append, List.append_nil]
  obtain ⟨c, hc⟩ := List.exists_mem_of_ne_nil _ hends
  refine ⟨c, ?_, ?_⟩
  · simp only [String.toList_append, List.mem_append] at hc ⊢
    exact hc.elim (fun h => .inl (.inl h)) .inr
  · exact (List.mem_append.1 hc).elim (List.all_eq_true.1 hbefore c) (List.all_eq_true.1 hafter c)

end IsPadded

namespace Server

variable {env env' : Environment} {v : Variable} {server : Server} {c : Session}

/-! ### What is looked up -/

theorem lookup_eq_of_dropsTo (h : env.DropsTo env') : lookup env' = lookup env := by
  funext v
  unfold lookup
  rcases h v with heq | ⟨hnone, raw, hraw, hblank⟩
  · rw [heq]
  · rw [hnone, hraw, Option.filter_none, Option.filter_some, if_neg (by simp [hblank])]

/-- Variables count by what is looked up of them. -/
theorem read_congr (h : lookup env' = lookup env) : read env' = read env := by
  unfold read readSession readOr required
  simp only [h]

theorem lookup_eq_of_eq (h : env' v = env v) : lookup env' v = lookup env v := by
  rw [lookup, h]
  rfl

theorem lookup_eq_some {raw : String} (h : env v = some raw)
    (hblank : Text.isBlankText raw = false) : lookup env v = some raw := by
  rw [lookup, h, Option.filter_some, hblank]
  rfl

/-- The value of a variable without the blanks around it. -/
def trimmed (env : Environment) (v : Variable) : Option String := (lookup env v).map Text.trim

theorem lookup_eq_of_padsTo (h : env.PadsTo env') (hv : v ∉ Variable.typed) :
    lookup env' v = lookup env v :=
  (h v).elim lookup_eq_of_eq fun hpads => absurd hpads.1 hv

theorem trimmed_eq_of_padsTo (h : env.PadsTo env') (v : Variable) :
    trimmed env' v = trimmed env v := by
  rcases h v with heq | ⟨-, raw, padded, hraw, hblank, hpadded, hpads⟩
  · rw [trimmed, lookup_eq_of_eq heq]
    rfl
  · rw [trimmed, trimmed, lookup_eq_some hpadded (hpads.isBlankText_eq.trans hblank),
      lookup_eq_some hraw hblank, Option.map_some, Option.map_some, hpads.trim_eq]

/-! ### What is trimmed -/

theorem readOr_eq_ok_iff {α : Type} {default a : α} {read : String → Except String α} :
    readOr env v default read = .ok a ↔ (trimmed env v).elim (.ok default) read = .ok a := by
  unfold readOr trimmed
  cases lookup env v with
  | none => simp
  | some raw => exact mapError_eq_ok

theorem readAlgorithm_eq_ok_iff {a : AccessToken.Algorithm} : readAlgorithm env = .ok a ↔
    (trimmed env .algorithm).elim (some .edwards) AccessToken.Algorithm.ofName? = some a := by
  unfold readAlgorithm trimmed
  cases lookup env .algorithm with
  | none => simp
  | some raw =>
    rw [mapError_eq_ok, AccessToken.Algorithm.parse]
    dsimp only [Option.map_some, Option.elim_some]
    cases AccessToken.Algorithm.ofName? (Text.trim raw) <;> simp

theorem readPepper_eq_ok_iff {pepper : Option Bytes} : readPepper env = .ok pepper ↔
    (trimmed env .pepper).elim (some none) (fun s => (Base64.standard.decode? s).map some) =
      some pepper := by
  unfold readPepper trimmed
  cases lookup env .pepper with
  | none => simp
  | some raw =>
    dsimp only [Option.map_some, Option.elim_some]
    cases Base64.standard.decode? (Text.trim raw) <;> simp

/-! ### What is not trimmed -/

/-- No policy has a blank in its name. -/
theorem readSameSite_of_blank {raw : String} {b : Char} (hb : b ∈ raw.toList)
    (hblank : Text.isBlank b = true) : readSameSite raw = .error (.unknownSameSite raw) := by
  have hnames : ∀ s ∈ Http.SameSite.all, (s.name.toList.map Char.toLower).all
      (fun d => decide (0x20 < d.toNat ∧ d.toNat < 0x7f)) = true := by decide
  have hnone : Http.SameSite.all.find? (fun s => decide
      (s.name.toList.map Char.toLower = raw.toList.map Char.toLower)) = none := by
    refine List.find?_eq_none.2 fun s hs hname => ?_
    have hmem : b ∈ s.name.toList.map Char.toLower := by
      rw [of_decide_eq_true hname]
      exact List.mem_map.2 ⟨b, hb, Text.toLower_of_isBlank hblank⟩
    have hvisible := of_decide_eq_true (List.all_eq_true.1 (hnames s hs) b hmem)
    rw [Text.isBlank_eq_false_of_visible hvisible] at hblank
    cases hblank
  unfold readSameSite
  dsimp only
  rw [hnone]

/-! ### What is read -/

/-- A value that was read is read with blanks around it. -/
theorem readOr_of_padsTo {α : Type} {default a : α} {read : String → Except String α}
    (hpads : env.PadsTo env') (h : readOr env v default read = .ok a) :
    readOr env' v default read = .ok a := by
  rw [readOr_eq_ok_iff, trimmed_eq_of_padsTo hpads, ← readOr_eq_ok_iff]
  exact h

/-- Blanks around values that were accepted leave open what becomes of the policy, and nothing
else. -/
theorem readSession_of_padsTo (hpads : env.PadsTo env') (h : c.IsReadFrom env) :
    readSession env' = (readPolicy env').map fun sameSite => { c with sameSite } := by
  have halgorithm : readAlgorithm env' = .ok c.algorithm := by
    rw [readAlgorithm_eq_ok_iff, trimmed_eq_of_padsTo hpads, ← readAlgorithm_eq_ok_iff]
    exact h.algorithm
  have hpepper : readPepper env' = .ok c.pepper := by
    rw [readPepper_eq_ok_iff, trimmed_eq_of_padsTo hpads, ← readPepper_eq_ok_iff]
    exact h.pepper
  rw [readSession_eq, halgorithm, readOr_of_padsTo hpads h.quota,
    readOr_of_padsTo hpads h.accessLifetime, readOr_of_padsTo hpads h.refreshLifetime, hpepper,
    readOr_of_padsTo hpads h.isCookieSecure, lookup_eq_of_padsTo hpads (by decide),
    lookup_eq_of_padsTo hpads (by decide)]
  dsimp only [bind, Except.bind]
  rw [if_neg (Nat.not_lt.2 h.one_le_quota), if_neg (by simp [h.isLifetime_access]),
    if_neg (by simp [h.isLifetime_refresh])]
  cases readPolicy env' with
  | error e => rfl
  | ok sameSite =>
    rw [h.issuer, h.cookieName, h.cookiePath]
    rfl

theorem read_of_padsTo (hpads : env.PadsTo env') (h : read env = .ok server) : read env' =
    (readPolicy env').map fun sameSite =>
      { server with session := { server.session with sameSite } } := by
  have hsession := readSession_of_padsTo hpads (isReadFrom_of_read h)
  unfold read at h
  obtain ⟨session, -, h⟩ := bind_eq_ok.1 h
  obtain ⟨address, haddress, h⟩ := bind_eq_ok.1 h
  obtain ⟨timeout, htimeout, h⟩ := bind_eq_ok.1 h
  obtain ⟨privateKeyFile, hprivate, h⟩ := bind_eq_ok.1 h
  obtain ⟨publicKeyFile, hpublic, h⟩ := bind_eq_ok.1 h
  cases h
  have hrequired {v : Variable} (hv : v ∉ Variable.typed) : required env' v = required env v := by
    rw [required, lookup_eq_of_padsTo hpads hv]
    rfl
  unfold read
  rw [hsession, readOr_of_padsTo hpads haddress, readOr_of_padsTo hpads htimeout,
    hrequired (by decide), hprivate, hrequired (by decide), hpublic,
    lookup_eq_of_padsTo hpads (by decide), lookup_eq_of_padsTo hpads (by decide)]
  cases readPolicy env' <;> rfl

/-- Variables with nothing but blanks may be left out. Where a configuration is accepted, blanks around
the values of variables that are read by a parser leave it as it is, but for the policy: that is
refused as soon as its value changes. -/
theorem blanks_ignored (env env' : Environment) :
    (env.DropsTo env' → read env' = read env) ∧
      (env.PadsTo env' → ∀ server, read env = .ok server →
        (env' .sameSite = env .sameSite → read env' = .ok server) ∧
        (env' .sameSite ≠ env .sameSite →
          ∃ padded, env' .sameSite = some padded ∧
            read env' = .error (.unknownSameSite padded))) := by
  refine ⟨fun hdrops => read_congr (lookup_eq_of_dropsTo hdrops), fun hpads server hread => ?_⟩
  rw [read_of_padsTo hpads hread]
  constructor
  · intro hsame
    have hpolicy : readPolicy env' = .ok server.session.sameSite := by
      rw [readPolicy, lookup_eq_of_eq hsame]
      exact (isReadFrom_of_read hread).sameSite
    rw [hpolicy]
    rfl
  · intro hne
    obtain ⟨-, raw, padded, hraw, hblank, hpadded, hpad⟩ := (hpads .sameSite).resolve_left hne
    have hchanged : padded ≠ raw := fun heq => hne (by rw [hpadded, hraw, heq])
    obtain ⟨b, hb, hbBlank⟩ := hpad.exists_blank hchanged
    have hpolicy : readPolicy env' = .error (.unknownSameSite padded) := by
      rw [readPolicy, lookup_eq_some hpadded (hpad.isBlankText_eq.trans hblank)]
      exact readSameSite_of_blank hb hbBlank
    rw [hpolicy]
    exact ⟨padded, hpadded, rfl⟩

end Server

/-- All variables that are read by a parser are set, with something around all values but the policy,
and one variable has nothing but a blank. -/
def Environment.complete (around : String → String) : Environment
  | .algorithm => some (around "PS512")
  | .quota => some (around "3")
  | .accessLifetime => some (around "+60")
  | .refreshLifetime => some (around "3600")
  | .https => some (around "true")
  | .sameSite => some "lax"
  | .pepper => some (around "cGVwcGVy")
  | .address => some (around "[::1]:8080")
  | .timeout => some (around "10")
  | .issuer => some " "
  | .privateKeyFile => some "private.pem"
  | .publicKeyFile => some "public.pem"
  | _ => none

theorem Environment.padsTo_complete {before after : String}
    (hbefore : Text.isBlankText before = true) (hafter : Text.isBlankText after = true) :
    (complete id).PadsTo (complete fun raw => before ++ raw ++ after) := by
  have hpad (raw : String) : IsPadded raw (before ++ raw ++ after) :=
    ⟨before, after, rfl, hbefore, hafter⟩
  intro v
  cases v with
  | algorithm | quota | accessLifetime | refreshLifetime | https | pepper | address | timeout =>
    exact .inr ⟨by decide, _, _, rfl, by decide, rfl, hpad _⟩
  | _ => exact .inl rfl

/-- Eight values with a space that does not break before them and a tab behind them; then the policy
with one space before it. -/
theorem Server.blanks_ignored_complete : ∃ server : Server,
    read (Environment.complete id) = .ok server ∧
    server.session.pepper = some (Text.utf8 "pepper") ∧
    read (Function.update (Environment.complete id) .issuer none) = .ok server ∧
    read (Environment.complete fun raw => "\u00a0" ++ raw ++ "\t") = .ok server ∧
    read (Function.update (Environment.complete id) .sameSite (some " lax")) =
      .error (.unknownSameSite " lax") := by
  obtain ⟨server, hread, hpepper⟩ : ∃ server, read (Environment.complete id) = .ok server ∧
      server.session.pepper = some (Text.utf8 "pepper") := ⟨_, rfl, rfl⟩
  have hdrops := @Environment.dropsTo_update (Environment.complete id) .issuer _ rfl rfl
  have hpads := @Environment.padsTo_complete "\u00a0" "\t" rfl rfl
  have hpolicy := @Environment.padsTo_update (Environment.complete id) .sameSite _ _
    (by decide) rfl rfl ⟨" ", "", rfl, rfl, rfl⟩
  have hset := Function.update_self Variable.sameSite (some " lax") (Environment.complete id)
  have hchanged : Function.update (Environment.complete id) .sameSite (some " lax") .sameSite ≠
      Environment.complete id .sameSite := by
    rw [hset]
    decide
  obtain ⟨padded, hpadded, herror⟩ := ((blanks_ignored _ _).2 hpolicy server hread).2 hchanged
  obtain rfl : " lax" = padded := Option.some.inj (hset.symm.trans hpadded)
  exact ⟨server, hread, hpepper, ((blanks_ignored _ _).1 hdrops).trans hread,
    ((blanks_ignored _ _).2 hpads server hread).1 rfl, herror⟩

end SessionAuth.Config
