import AdminPanel.Page.Text
import AdminPanel.Proofs.Text.Lines

/-!
# What an uptime shows

An uptime is written in days, hours and minutes, without the leading ones of which there are none. A number
ends at its unit, so a text is the uptime of one number of each (`ShowsUptime.unique`), whichever units it
begins with; and these are the minute that the uptime lies in (`uptime_names_minute`).
-/

namespace AdminPanel.Page

/-- A text that shows a number of days, of hours and of minutes: leading units of which there are none are
left out. -/
inductive ShowsUptime : Nat → Nat → Nat → String → Prop where
  | days {d h m : Nat} (some' : 0 < d) :
    ShowsUptime d h m (toString d ++ "d " ++ toString h ++ "h " ++ toString m ++ "m")
  | hours {h m : Nat} (some' : 0 < h) : ShowsUptime 0 h m (toString h ++ "h " ++ toString m ++ "m")
  | minutes {m : Nat} : ShowsUptime 0 0 m (toString m ++ "m")

variable {d h m d' h' m' n n' : Nat} {text : String}

/-- Of two texts that are the same, the numbers in front are the same, and so is what follows them. -/
theorem eq_of_toDigits_append {c c' : Char} {rest rest' : List Char} (hc : c.isDigit = false)
    (hc' : c'.isDigit = false)
    (same : Nat.toDigits 10 n ++ c :: rest = Nat.toDigits 10 n' ++ c' :: rest') :
    n = n' ∧ c = c' ∧ rest = rest' := by
  have digits (n : Nat) : ∀ x ∈ Nat.toDigits 10 n, x.isDigit = true :=
    fun x within => Nat.isDigit_of_mem_toDigits (by decide) (by decide) within
  obtain ⟨front, unit, behind⟩ := Text.eq_of_append_cons (digits n) (digits n') hc hc' same
  have number := congrArg (Nat.ofDigitChars 10 · 0) front
  simp only [Nat.ofDigitChars_ten_toDigits] at number
  exact ⟨number, unit, behind⟩

/-- A text shows one number of each unit. -/
theorem ShowsUptime.unique (shown : ShowsUptime d h m text) (shown' : ShowsUptime d' h' m' text) :
    d = d' ∧ h = h' ∧ m = m' := by
  generalize same : text = text' at shown'
  replace same := congrArg String.toList same
  cases shown <;> cases shown' <;>
    simp only [String.toList_append, Nat.toString_eq_ofList_toDigits, String.toList_ofList,
      String.reduceToList, List.append_assoc, List.cons_append, List.nil_append] at same
  case days.days =>
    obtain ⟨rfl, -, same⟩ := eq_of_toDigits_append rfl rfl same
    obtain ⟨rfl, -, same⟩ := eq_of_toDigits_append rfl rfl (List.cons.inj same).2
    obtain ⟨rfl, -⟩ := eq_of_toDigits_append rfl rfl (List.cons.inj same).2
    exact ⟨rfl, rfl, rfl⟩
  case hours.hours =>
    obtain ⟨rfl, -, same⟩ := eq_of_toDigits_append rfl rfl same
    obtain ⟨rfl, -⟩ := eq_of_toDigits_append rfl rfl (List.cons.inj same).2
    exact ⟨rfl, rfl, rfl⟩
  case minutes.minutes =>
    obtain ⟨rfl, -⟩ := eq_of_toDigits_append rfl rfl same
    exact ⟨rfl, rfl, rfl⟩
  -- the first numbers of the two texts end at different units
  all_goals exact absurd (eq_of_toDigits_append rfl rfl same).2.1 (by decide)

/-- The uptime of a number of seconds shows its days, hours and minutes. -/
theorem showsUptime_uptimeText (a : UInt64) :
    ShowsUptime (a.toNat / 86400) (a.toNat % 86400 / 3600) (a.toNat % 3600 / 60) (uptimeText a) := by
  unfold uptimeText
  dsimp only
  split
  · next days => exact .days days
  · next noDays =>
    rw [show a.toNat / 86400 = 0 by omega]
    split
    · next hours => exact .hours hours
    · next noHours =>
      rw [show a.toNat % 86400 / 3600 = 0 by omega]
      exact .minutes

/-- **An uptime names its minute.** Two uptimes are written alike exactly if they lie in the same minute; and
what is written is a number of days, of hours below a day and of minutes below an hour, namely those with
which the uptime is reached but for less than a minute. -/
theorem uptime_names_minute (a : UInt64) :
    (∀ b, uptimeText a = uptimeText b ↔ a / 60 = b / 60) ∧
    (∃ d h m, ShowsUptime d h m (uptimeText a)) ∧
    ∀ d h m, ShowsUptime d h m (uptimeText a) ↔
      h < 24 ∧ m < 60 ∧ 86400 * d + 3600 * h + 60 * m ≤ a.toNat ∧
        a.toNat < 86400 * d + 3600 * h + 60 * m + 60 := by
  have shown := showsUptime_uptimeText a
  refine ⟨fun b => ?_, ⟨_, _, _, shown⟩, fun d h m => ?_⟩
  · have words : a / 60 = b / 60 ↔ a.toNat / 60 = b.toNat / 60 := by
      rw [← UInt64.toNat_inj, UInt64.toNat_div, UInt64.toNat_div]
      rfl
    rw [words]
    constructor
    · intro same
      have shown' := showsUptime_uptimeText b
      rw [← same] at shown'
      -- a text is read in one way only, hence equal texts name the same minute
      obtain ⟨days, hours, minutes⟩ := shown.unique shown'
      omega
    · intro same
      have days : a.toNat / 86400 = b.toNat / 86400 := by omega
      have hours : a.toNat % 86400 / 3600 = b.toNat % 86400 / 3600 := by omega
      have minutes : a.toNat % 3600 / 60 = b.toNat % 3600 / 60 := by omega
      simp only [uptimeText, days, hours, minutes]
  · constructor
    · intro shown'
      obtain ⟨rfl, rfl, rfl⟩ := shown.unique shown'
      omega
    · rintro ⟨day, hour, least, most⟩
      obtain rfl : a.toNat / 86400 = d := by omega
      obtain rfl : a.toNat % 86400 / 3600 = h := by omega
      obtain rfl : a.toNat % 3600 / 60 = m := by omega
      exact shown

/-- The longest uptime that can be sent. -/
example : uptimeText 18446744073709551615 = "213503982334601d 7h 0m" := by decide

end AdminPanel.Page
