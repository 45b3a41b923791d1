import QueryTail.Settings.Adjustment
import QueryTail.Settings.Load

/-!
# Settings within their limits

Every number of the settings has a range. Whatever a settings file says, the numbers that come of it
are in their ranges (`withinLimits_load`), and no adjustment takes them out: a saved number out of
its range is passed over, and such a number on the command line is refused.
-/

namespace QueryTail

namespace Settings

variable {settings changed : Settings} {limits : Limits}

/-- All numbers are in their ranges. -/
structure WithinLimits (settings : Settings) : Prop where
  capacity : Limits.capacity.holds settings.capacity = true
  pageSize : Limits.pageSize.holds settings.pageSize = true
  interval : Limits.interval.holds settings.interval = true
  fetchTimeout : Limits.fetchTimeout.holds settings.fetchTimeout = true
  highlight : Limits.highlight.holds settings.highlight = true

/-! ### Settings files -/

/-- The standard settings are within their limits. -/
theorem withinLimits_standard : standard.WithinLimits where
  capacity := Limits.holds_standard _
  pageSize := Limits.holds_standard _
  interval := Limits.holds_standard _
  fetchTimeout := Limits.holds_standard _
  highlight := Limits.holds_standard _

/-- A number that was checked is within the limits, whatever was given. -/
theorem holds_checkNumber (field : String) (limits : Limits) (value : Option Nat) :
    limits.holds (checkNumber field limits value).1 = true := by
  cases value with
  | none => exact limits.holds_standard
  | some value =>
    unfold checkNumber
    dsimp only
    split
    · assumption
    · exact limits.holds_standard

/-- Settings from a file are within their limits, whatever the file says. -/
theorem withinLimits_ofRaw (raw : RawSettings) : (ofRaw raw).1.WithinLimits where
  capacity := holds_checkNumber _ _ _
  pageSize := holds_checkNumber _ _ _
  interval := holds_checkNumber _ _ _
  fetchTimeout := holds_checkNumber _ _ _
  highlight := holds_checkNumber _ _ _

/-- Settings that were loaded are the default settings or those that a text asks for. -/
theorem load_eq (files : FileTree) (path : String) :
    (load files path).1 = standard ∨ ∃ raw, (load files path).1 = (ofRaw raw).1 := by
  unfold load
  split
  · unfold ofContent
    split
    · exact .inl rfl
    · split
      · exact .inl rfl
      · next raw _ => exact .inr ⟨raw, rfl⟩
  · exact .inl rfl

/-- Settings that were loaded are within their limits, whatever the file holds. -/
theorem withinLimits_load (files : FileTree) (path : String) :
    (load files path).1.WithinLimits := by
  rcases load_eq files path with same | ⟨raw, same⟩
  · rw [same]
    exact withinLimits_standard
  · rw [same]
    exact withinLimits_ofRaw raw

/-! ### Adjustment -/

/-- A saved number that is in its range is preferred. -/
theorem preferNumber_of_holds {saved : UInt64} (inside : limits.holds saved.toNat = true)
    (held : Nat) : preferNumber limits saved held = saved.toNat :=
  if_pos inside

/-- A saved number that is preferred to a held one leaves it within the limits. -/
theorem holds_preferNumber {held : Nat} (inside : limits.holds held = true) (saved : UInt64) :
    limits.holds (preferNumber limits saved held) = true := by
  unfold preferNumber
  split
  · assumption
  · exact inside

/-- A number of the command line that passes its check is within the limits. -/
theorem holds_of_checkedNumber {field : String} {value : UInt64} {number : Nat}
    (checked : checkedNumber field limits value = .ok number) : limits.holds number = true := by
  unfold checkedNumber at checked
  split at checked
  · next inside => exact Except.ok.inj checked ▸ inside
  · cases checked

/-- What each change keeps holds after changes, also if they ended early. -/
theorem changes_keeps (kept : Settings → Prop)
    (keeps : ∀ {settings changed : Settings} {change : Change}, kept settings →
      settings.change change = .ok changed → kept changed)
    (holds : kept settings) (changes : List Change) : kept (settings.changes changes).1 := by
  induction changes generalizing settings with
  | nil => exact holds
  | cons first rest ih =>
    unfold Settings.changes
    cases made : settings.change first with
    | error fault => exact holds
    | ok changed => exact ih (keeps holds made)

namespace WithinLimits

/-- Saved preferences leave settings within their limits. -/
theorem withPreferences (within : settings.WithinLimits) (saved : Option Preferences) :
    (settings.withPreferences saved).WithinLimits := by
  cases saved with
  | none => exact within
  | some saved =>
    exact
      { within with
        capacity := holds_preferNumber within.capacity _
        pageSize := holds_preferNumber within.pageSize _
        interval := holds_preferNumber within.interval _ }

/-- A change that is accepted leaves settings within their limits. -/
theorem change {change : Change} (within : settings.WithinLimits)
    (made : settings.change change = .ok changed) : changed.WithinLimits := by
  cases change with
  | node spec =>
    obtain ⟨node, -, added⟩ := exists_of_bind_eq_ok made
    obtain ⟨nodes, -, rfl⟩ := exists_of_map_eq_ok added
    exact { within with }
  | capacity value =>
    obtain ⟨capacity, checked, rfl⟩ := exists_of_map_eq_ok made
    exact { within with capacity := holds_of_checkedNumber checked }
  | pageSize value =>
    obtain ⟨pageSize, checked, rfl⟩ := exists_of_map_eq_ok made
    exact { within with pageSize := holds_of_checkedNumber checked }
  | interval value =>
    obtain ⟨interval, checked, rfl⟩ := exists_of_map_eq_ok made
    exact { within with interval := holds_of_checkedNumber checked }
  | retain =>
    obtain rfl := Except.ok.inj made
    exact { within with }

/-- Changes leave settings within their limits, up to the first one that is refused. -/
theorem changes (within : settings.WithinLimits) (changes : List Change) :
    (settings.changes changes).1.WithinLimits :=
  changes_keeps WithinLimits WithinLimits.change within changes

/-- Adjusted settings are within their limits, also if the adjustment ended early. -/
theorem adjust (within : settings.WithinLimits) (saved : Option Preferences)
    (arguments : Arguments) : (settings.adjust saved arguments).1.WithinLimits :=
  (within.withPreferences saved).changes (changesOf arguments)

end WithinLimits

end Settings

end QueryTail
