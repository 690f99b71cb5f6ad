import BankStatement.Proofs.Matching.Review
import Mathlib.Data.List.Forall2
import Mathlib.Data.List.Pairwise

/-!
# Which account a draft belongs to

The account of a draft is found by scanning the accounts three times, for the IBAN that the draft
names, for an IBAN that ends with what it names, and for the only account there is. Each scan takes
the first or the only one, so it could depend on the order of the accounts. It does not when no IBAN
occurs twice: `Account.IsMeant` says without an order which account is meant, and
`accountNamed?_eq_some_iff` that this is the one that is found. Once it is known which scan applies,
being meant is what this scan looks for (`isMeant_nil_iff`, `isMeant_iff_of_whole`,
`isMeant_iff_of_no_whole`).

An account is compared by its normal IBAN and found by its id. `Account.mark` is this pair, and two
lists of accounts with the same marks in some order find the same (`isMeant_of_marks_perm`).

Blanks are treated as in the normal form of an IBAN: put in or left out anywhere, also in the name
of the draft (`Respaced`). This is said as a relation of spellings and not by a function, and shown
to be equality of the other characters (`respaced_iff`).

The scans skip accounts without an IBAN. Where a name is looked for, this makes no difference, since
an empty IBAN neither is nor ends with a name that is not empty (`find?_withIban`,
`filter_withIban`); the third scan counts them, so a draft without a name belongs to the only
account whether or not that has an IBAN.
-/

namespace BankStatement

namespace Matching

variable {s t : Text}

/-- Two texts that differ in their blanks: blanks are put in or left out anywhere. -/
inductive Respaced : Text → Text → Prop
  | nil : Respaced [] []
  | keep (c : Char) {s t : Text} (h : Respaced s t) : Respaced (c :: s) (c :: t)
  | putIn {c : Char} {s t : Text} (hblank : isBlank c = true) (h : Respaced s t) :
    Respaced s (c :: t)
  | leaveOut {c : Char} {s t : Text} (hblank : isBlank c = true) (h : Respaced s t) :
    Respaced (c :: s) t

theorem dropBlanks_cons (c : Char) (t : Text) :
    dropBlanks (c :: t) = if isBlank c then dropBlanks t else c :: dropBlanks t := by
  rw [dropBlanks, List.filter_cons]
  cases isBlank c <;> rfl

theorem Respaced.dropBlanks_eq (h : Respaced s t) : dropBlanks s = dropBlanks t := by
  induction h with
  | nil => rfl
  | keep c _ ih => rw [dropBlanks_cons, dropBlanks_cons, ih]
  | putIn hblank _ ih => rw [dropBlanks_cons, if_pos hblank, ih]
  | leaveOut hblank _ ih => rw [dropBlanks_cons, if_pos hblank, ih]

theorem Respaced.refl (t : Text) : Respaced t t := by
  induction t with
  | nil => exact .nil
  | cons c t ih => exact .keep c ih

theorem Respaced.of_dropBlanks (h : Respaced (dropBlanks s) t) : Respaced s t := by
  induction s generalizing t with
  | nil => exact h
  | cons c s ih =>
      rw [dropBlanks_cons] at h
      split at h
      next hblank => exact .leaveOut hblank (ih h)
      next hkept =>
        generalize hs : c :: dropBlanks s = u at h
        induction h with
        | nil => cases hs
        | keep d h => cases hs; exact .keep c (ih h)
        | putIn hblank _ ih' => exact .putIn hblank (ih' hs)
        | leaveOut hblank => cases hs; exact absurd hblank hkept

theorem Respaced.symm (h : Respaced s t) : Respaced t s := by
  induction h with
  | nil => exact .nil
  | keep c _ ih => exact .keep c ih
  | putIn hblank _ ih => exact .leaveOut hblank ih
  | leaveOut hblank _ ih => exact .putIn hblank ih

/-- The texts that differ in their blanks are those with the same other characters. -/
theorem respaced_iff : Respaced s t ↔ dropBlanks s = dropBlanks t := by
  refine ⟨Respaced.dropBlanks_eq, fun h => ?_⟩
  have hback : Respaced (dropBlanks t) t := (Respaced.of_dropBlanks (.refl (dropBlanks t))).symm
  exact .of_dropBlanks (h ▸ hback)

instance (s t : Text) : Decidable (Respaced s t) := decidable_of_iff _ respaced_iff.symm

theorem normalIban_congr {s t : Option Text} (h : Respaced (s.getD []) (t.getD [])) :
    normalIban s = normalIban t := by
  rw [normalIban, normalIban, h.dropBlanks_eq]

/-- What has a normal form is there. -/
theorem isFilled_of_normalIban_ne_nil {iban : Option Text} (h : normalIban iban ≠ []) :
    Text.isFilled iban = true := by
  match iban with
  | none => exact absurd rfl h
  | some [] => exact absurd rfl h
  | some (_ :: _) => rfl

end Matching

namespace Account

variable {accounts others : List Account} {token : Text} {a b : Account}

/-- The IBAN that an account is compared by; without one it is empty. -/
def normalIban (a : Account) : Text := Matching.normalIban a.iban

/-- The same account, its IBAN spaced in some way. -/
structure SpacedAs (a b : Account) : Prop where
  id : a.id = b.id
  iban : Matching.Respaced (a.iban.getD []) (b.iban.getD [])

/-- The same accounts in some order, their IBANs spaced in some way. -/
def Rearranged (accounts others : List Account) : Prop :=
  ∃ ordered, accounts.Perm ordered ∧ List.Forall₂ SpacedAs ordered others

/-- No IBAN occurs twice. Accounts without an IBAN do not count. -/
def DistinctIbans (accounts : List Account) : Prop :=
  accounts.Pairwise fun a b => a.normalIban = b.normalIban → a.normalIban = []

instance (accounts : List Account) : Decidable (DistinctIbans accounts) :=
  inferInstanceAs (Decidable (accounts.Pairwise _))

/-- The account that a token means among some accounts. -/
inductive IsMeant (accounts : List Account) (token : Text) (a : Account) : Prop where
  /-- It is the IBAN of the account. -/
  | whole (hne : token ≠ []) (ha : a ∈ accounts) (h : a.normalIban = token)
  /-- It is nobody's IBAN, and only the IBAN of the account ends with it. -/
  | ending (hne : token ≠ []) (hno : ∀ b ∈ accounts, b.normalIban ≠ token)
      (h : (accounts.filter fun b => token <:+ b.normalIban) = [a])
  /-- It says nothing, and the account is the only one. -/
  | single (hnil : token = []) (h : accounts = [a])

/-! ## Accounts in another order -/

/-- All that the detection of an account looks at. -/
def mark (a : Account) : EntityId × Text := (a.id, a.normalIban)

theorem SpacedAs.mark_eq (h : a.SpacedAs b) : a.mark = b.mark := by
  rw [mark, mark, h.id, normalIban, normalIban, Matching.normalIban_congr h.iban]

theorem Rearranged.marks_perm (h : Rearranged accounts others) :
    (accounts.map mark).Perm (others.map mark) := by
  obtain ⟨ordered, hperm, hspaced⟩ := h
  have hsame : ordered.map mark = others.map mark := by
    clear hperm
    induction hspaced with
    | nil => rfl
    | cons hab _ ih => rw [List.map_cons, List.map_cons, hab.mark_eq, ih]
  exact hsame ▸ hperm.map mark

theorem distinctIbans_of_marks_perm (h : (accounts.map mark).Perm (others.map mark))
    (hdistinct : DistinctIbans accounts) : DistinctIbans others := by
  have hmarks (l : List Account) :
      DistinctIbans l ↔ (l.map mark).Pairwise fun m n => m.2 = n.2 → m.2 = [] := by
    rw [List.pairwise_map]
    rfl
  have hsymm : ∀ {m n : EntityId × Text}, (m.2 = n.2 → m.2 = []) → n.2 = m.2 → n.2 = [] :=
    fun hmn hnm => hnm.trans (hmn hnm.symm)
  rw [hmarks] at hdistinct ⊢
  exact (h.pairwise_iff hsymm).mp hdistinct

theorem exists_of_marks_perm (h : (accounts.map mark).Perm (others.map mark)) (ha : a ∈ accounts) :
    ∃ b ∈ others, b.mark = a.mark :=
  List.mem_map.mp (h.mem_iff.mp (List.mem_map_of_mem ha))

/-- Among the same accounts in another order a token means the same one. IBANs need not be distinct
for this: that is what the scans need to find it. -/
theorem isMeant_of_marks_perm (h : (accounts.map mark).Perm (others.map mark))
    (ha : IsMeant accounts token a) : ∃ b, b.id = a.id ∧ IsMeant others token b := by
  have hid : ∀ {b : Account}, b.mark = a.mark → b.id = a.id := fun hmark => congrArg Prod.fst hmark
  cases ha with
  | whole hne ha hwhole =>
      obtain ⟨b, hb, hmark⟩ := exists_of_marks_perm h ha
      exact ⟨b, hid hmark, .whole hne hb ((congrArg Prod.snd hmark).trans hwhole)⟩
  | ending hne hno hending =>
      have hends (l : List Account) : (l.filter fun b => token <:+ b.normalIban).map mark
          = (l.map mark).filter fun m => token <:+ m.2 := by
        rw [List.filter_map]
        rfl
      have hperm := h.filter fun m => decide (token <:+ m.2)
      rw [← hends, ← hends, hending, List.map_singleton] at hperm
      obtain ⟨b, hb, hmark⟩ := List.map_eq_singleton_iff.mp (List.singleton_perm.mp hperm).symm
      refine ⟨b, hid hmark, .ending hne (fun c hc hwhole => ?_) hb⟩
      obtain ⟨c', hc', hsame⟩ := exists_of_marks_perm h.symm hc
      exact hno c' hc' ((congrArg Prod.snd hsame).trans hwhole)
  | single hnil hsingle =>
      rw [hsingle, List.map_singleton] at h
      obtain ⟨b, hb, hmark⟩ := List.map_eq_singleton_iff.mp (List.singleton_perm.mp h).symm
      exact ⟨b, hid hmark, .single hnil hb⟩

/-- Two accounts with the same IBAN are one account. This is where distinct IBANs are used: the
scans may take the first hit because there is no second. -/
theorem DistinctIbans.eq (h : DistinctIbans accounts) (hne : a.normalIban ≠ [])
    (ha : a ∈ accounts) (hb : b ∈ accounts) (hab : a.normalIban = b.normalIban) : a = b := by
  induction h with
  | nil => cases ha
  | cons hfirst _ ih =>
      rcases List.mem_cons.mp ha with rfl | ha'
      · rcases List.mem_cons.mp hb with rfl | hb'
        · rfl
        · exact absurd (hfirst b hb' hab) hne
      · rcases List.mem_cons.mp hb with rfl | hb'
        · exact absurd (hab.trans (hfirst a ha' hab.symm)) hne
        · exact ih ha' hb'

/-! ### What a token means, scan by scan -/

theorem isMeant_nil_iff : IsMeant accounts [] a ↔ accounts = [a] := by
  constructor
  · rintro (⟨hne, -, -⟩ | ⟨hne, -, -⟩ | ⟨-, hsingle⟩)
    · exact absurd rfl hne
    · exact absurd rfl hne
    · exact hsingle
  · exact .single rfl

theorem isMeant_iff_of_whole (hne : token ≠ []) (hb : b ∈ accounts)
    (hwhole : b.normalIban = token) :
    IsMeant accounts token a ↔ a ∈ accounts ∧ a.normalIban = token := by
  constructor
  · rintro (⟨-, ha, hown⟩ | ⟨-, hno, -⟩ | ⟨hnil, -⟩)
    · exact ⟨ha, hown⟩
    · exact absurd hwhole (hno b hb)
    · exact absurd hnil hne
  · rintro ⟨ha, hown⟩
    exact .whole hne ha hown

theorem isMeant_iff_of_no_whole (hne : token ≠ [])
    (hno : ∀ b ∈ accounts, b.normalIban ≠ token) :
    IsMeant accounts token a ↔ (accounts.filter fun b => token <:+ b.normalIban) = [a] := by
  constructor
  · rintro (⟨-, ha, hown⟩ | ⟨-, -, hending⟩ | ⟨hnil, -⟩)
    · exact absurd hown (hno a ha)
    · exact hending
    · exact absurd hnil hne
  · exact .ending hne hno

end Account

namespace Classifier

open Account (DistinctIbans IsMeant Rearranged)

variable {k : Classifier} {accounts : List Account} {token : Text} {name : Option Text}
  {a : Account}

/-! ## The three scans -/

/-- Accounts without an IBAN need not be left out before an IBAN is looked for. -/
theorem find?_withIban (hne : token ≠ []) :
    ((accounts.filter fun a => Text.isFilled a.iban).find? fun a =>
        Matching.normalIban a.iban == token)
      = accounts.find? fun a => a.normalIban == token := by
  rw [List.find?_filter]
  congr 1
  funext a
  rw [Account.normalIban, Bool.eq_iff_iff, decide_eq_true_eq, beq_iff_eq, and_iff_right_iff_imp]
  rintro rfl
  exact Matching.isFilled_of_normalIban_ne_nil hne

theorem filter_withIban (hne : token ≠ []) :
    ((accounts.filter fun a => Text.isFilled a.iban).filter fun a =>
        token.isSuffixOf (Matching.normalIban a.iban))
      = accounts.filter fun a => token <:+ a.normalIban := by
  rw [List.filter_filter]
  refine List.filter_congr fun a _ => ?_
  rw [Account.normalIban, Bool.eq_iff_iff, Bool.and_eq_true, List.isSuffixOf_iff_suffix,
    decide_eq_true_eq, and_iff_left_iff_imp]
  exact fun h => Matching.isFilled_of_normalIban_ne_nil fun hnil =>
    hne (List.suffix_nil.mp (hnil ▸ h))

theorem find?_eq_some_iff_whole (hdistinct : DistinctIbans accounts) (hne : token ≠ []) :
    (accounts.find? fun a => a.normalIban == token) = some a
      ↔ a ∈ accounts ∧ a.normalIban = token := by
  have hfound {b : Account} (h : (accounts.find? fun a => a.normalIban == token) = some b) :
      b ∈ accounts ∧ b.normalIban = token :=
    ⟨List.mem_of_find?_eq_some h, by simpa using List.find?_some h⟩
  refine ⟨hfound, fun ⟨ha, hwhole⟩ => ?_⟩
  cases h : accounts.find? fun a => a.normalIban == token with
  | none =>
      have hno := List.find?_eq_none.mp h a ha
      exact absurd (beq_iff_eq.mpr hwhole) hno
  | some b =>
      obtain ⟨hb, hwhole'⟩ := hfound h
      rw [hdistinct.eq (hwhole ▸ hne) ha hb (hwhole.trans hwhole'.symm)]

/-- The account that is found for a name is the one that the name means. -/
theorem accountNamed?_eq_some_iff (hdistinct : DistinctIbans k.accounts) :
    k.accountNamed? name = some a ↔ IsMeant k.accounts (Matching.normalIban name) a := by
  unfold accountNamed?
  generalize Matching.normalIban name = token
  simp only
  split
  next hempty =>
    obtain rfl : token = [] := List.isEmpty_iff.mp hempty
    rw [Account.isMeant_nil_iff]
    split
    next only hsingle => rw [hsingle, Option.some_inj, List.singleton_inj]
    next hnot => exact iff_of_false nofun (hnot a)
  next hempty =>
    have hne : token ≠ [] := fun hnil => hempty (List.isEmpty_iff.mpr hnil)
    rw [find?_withIban hne, filter_withIban hne]
    split
    next whole hfound =>
      obtain ⟨hmem, hwhole⟩ := (find?_eq_some_iff_whole hdistinct hne).mp hfound
      rw [← hfound, find?_eq_some_iff_whole hdistinct hne,
        Account.isMeant_iff_of_whole hne hmem hwhole]
    next hnone =>
      have hno : ∀ b ∈ k.accounts, b.normalIban ≠ token := fun b hb hwhole =>
        List.find?_eq_none.mp hnone b hb (beq_iff_eq.mpr hwhole)
      rw [Account.isMeant_iff_of_no_whole hne hno]
      split
      next similar hsimilar => rw [hsimilar, Option.some_inj, List.singleton_inj]
      next hnot => exact iff_of_false nofun (hnot a)

theorem accountNamed?_id_eq_some_iff {id : EntityId} (hdistinct : DistinctIbans k.accounts) :
    (k.accountNamed? name).map (·.id) = some id
      ↔ ∃ a, a.id = id ∧ IsMeant k.accounts (Matching.normalIban name) a := by
  simp only [Option.map_eq_some_iff, accountNamed?_eq_some_iff hdistinct, and_comm]

/-! ## The account of a draft -/

variable {k' : Classifier} {name' : Option Text} {d : Draft}

/-- Neither the order of the accounts nor the blanks in IBANs and names matter for the id that is
found. -/
theorem accountNamed?_id_rearranged (hdistinct : DistinctIbans k.accounts)
    (hk : Rearranged k.accounts k'.accounts)
    (hname : Matching.Respaced (name.getD []) (name'.getD [])) :
    (k'.accountNamed? name').map (·.id) = (k.accountNamed? name).map (·.id) := by
  have hmarks := hk.marks_perm
  have hdistinct' := Account.distinctIbans_of_marks_perm hmarks hdistinct
  ext id
  rw [accountNamed?_id_eq_some_iff hdistinct, accountNamed?_id_eq_some_iff hdistinct',
    ← Matching.normalIban_congr hname]
  constructor
  · rintro ⟨b, rfl, hb⟩
    exact Account.isMeant_of_marks_perm hmarks.symm hb
  · rintro ⟨a, rfl, ha⟩
    exact Account.isMeant_of_marks_perm hmarks ha

theorem detectAccount_of_none (hd : d.detectedAccountId = none) :
    k.detectAccount d
      = { d with detectedAccountId := (k.accountNamed? d.accountName).map (·.id) } := by
  rw [detectAccount_eq, accountOf, hd, Option.none_or]

/-- A draft keeps an account that has been detected. Else it is given the account that its header
means, and nothing else in it changes; if no IBAN occurs twice, neither the order of the accounts
nor any blanks have a say in this. -/
theorem detectAccount_meant (k : Classifier) (d : Draft) :
    (d.detectedAccountId ≠ none → k.detectAccount d = d)
      ∧ (d.detectedAccountId = none → DistinctIbans k.accounts →
        (∀ (k' : Classifier) (name : Option Text), Rearranged k.accounts k'.accounts →
          Matching.Respaced (d.accountName.getD []) (name.getD []) →
          k'.detectAccount { d with accountName := name }
            = { k.detectAccount d with accountName := name })
        ∧ (∀ id, (k.detectAccount d).detectedAccountId = some id
          ↔ ∃ a, a.id = id ∧ IsMeant k.accounts (Matching.normalIban d.accountName) a)
        ∧ k.detectAccount d
          = { d with detectedAccountId := (k.detectAccount d).detectedAccountId }
        ∧ ((∀ a, ¬IsMeant k.accounts (Matching.normalIban d.accountName) a) →
          k.detectAccount d = d)) := by
  constructor
  · intro hd
    obtain ⟨id, hid⟩ := Option.ne_none_iff_exists'.mp hd
    rw [detectAccount, hid]
  · intro hd hdistinct
    have hdetected : (k.detectAccount d).detectedAccountId
        = (k.accountNamed? d.accountName).map (·.id) := by
      rw [detectAccount_of_none hd]
    refine ⟨fun k' name hk hname => ?_, fun id => ?_, ?_, fun hno => ?_⟩
    · have hother := detectAccount_of_none (k := k') (d := { d with accountName := name }) hd
      rw [hother, detectAccount_of_none hd, accountNamed?_id_rearranged hdistinct hk hname]
    · rw [hdetected, accountNamed?_id_eq_some_iff hdistinct]
    · rw [detectAccount_of_none hd]
    · have hnone : k.accountNamed? d.accountName = none :=
        Option.eq_none_iff_forall_ne_some.mpr fun a ha =>
          hno a ((accountNamed?_eq_some_iff hdistinct).mp ha)
      rw [detectAccount_of_none hd, hnone, Option.map_none, ← hd]

end Classifier

namespace Household

def giro : Account := { account with iban := some "DE11 2222 3333 4444 5555 01".toList }

def savings : Account where
  id := "savings".toList
  name := "Tagesgeld".toList
  iban := some "DE11 2222 3333 4444 5555 02".toList

/-- An account with nothing but a blank for an IBAN. -/
def cash : Account where
  id := "cash".toList
  name := "Bargeld".toList
  iban := some " ".toList

def owner : Classifier := { classifier with accounts := [giro, savings, cash] }

def respacedOwner : Classifier :=
  { classifier with
    accounts := [cash, { savings with iban := some "DE112222333344445555 02\t".toList }, giro] }

/-- A draft that names the end of an IBAN. -/
def numbered : Draft where
  originalFileName := "umsatz.csv".toList
  accountName := some "5555 02".toList

theorem rearranged_respacedOwner :
    Account.Rearranged owner.accounts respacedOwner.accounts := by
  have hspaced : savings.SpacedAs
      { savings with iban := some "DE112222333344445555 02\t".toList } :=
    ⟨rfl, by decide +kernel⟩
  exact ⟨[cash, savings, giro], by decide,
    .cons ⟨rfl, .refl _⟩ (.cons hspaced (.cons ⟨rfl, .refl _⟩ .nil))⟩

theorem detectAccount_meant_numbered :
    Account.DistinctIbans owner.accounts
      ∧ Account.IsMeant owner.accounts "555502".toList savings
      ∧ owner.detectAccount numbered = { numbered with detectedAccountId := some savings.id }
      ∧ respacedOwner.detectAccount { numbered with accountName := some "555502".toList }
        = { numbered with
          accountName := some "555502".toList
          detectedAccountId := some savings.id }
      ∧ owner.detectAccount { numbered with accountName := some "5555".toList }
        = { numbered with accountName := some "5555".toList }
      ∧ owner.detectAccount { numbered with detectedAccountId := some cash.id }
        = { numbered with detectedAccountId := some cash.id } := by
  have hdistinct : Account.DistinctIbans owner.accounts := by decide +kernel
  have hmeant : Account.IsMeant owner.accounts "555502".toList savings :=
    .ending (by decide) (by decide +kernel) (by decide +kernel)
  have htoken : Matching.normalIban numbered.accountName = "555502".toList := by decide +kernel
  obtain ⟨hother, hid, hframe, -⟩ :=
    (Classifier.detectAccount_meant owner numbered).2 rfl hdistinct
  have hfound := (hid savings.id).mpr ⟨savings, rfl, htoken ▸ hmeant⟩
  rw [hfound] at hframe
  have hrespaced := hother respacedOwner (some "555502".toList) rearranged_respacedOwner
    (by decide +kernel)
  rw [hframe] at hrespaced
  -- both IBANs hold these digits, but neither ends with them
  have hnobody : ∀ a, ¬Account.IsMeant owner.accounts "5555".toList a := by
    rintro a (⟨-, ha, h⟩ | ⟨-, -, h⟩ | ⟨h, -⟩)
    · exact absurd h (by revert a; decide +kernel)
    · have hnone : (owner.accounts.filter fun b => "5555".toList <:+ b.normalIban) = [] := by
        decide +kernel
      rw [hnone] at h
      cases h
    · cases h
  have hunnamed : Matching.normalIban (some "5555".toList) = "5555".toList := by decide +kernel
  refine ⟨hdistinct, hmeant, hframe, hrespaced, ?_,
    (Classifier.detectAccount_meant owner _).1 (by nofun)⟩
  exact ((Classifier.detectAccount_meant owner _).2 rfl hdistinct).2.2.2 (hunnamed.symm ▸ hnobody)

end Household

end BankStatement
