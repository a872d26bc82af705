import AnalyticsQuery.Form.Config
import AnalyticsQuery.Proofs.Form.Given
import AnalyticsQuery.Proofs.Reading

/-!
# Round trips of settings

Settings are only accepted with an earliest date that is a date, with a positive page size
and with a known zone.  The defaults are such settings, every accepted value keeps them so,
and whatever settings are such are read back as they were written.
-/

namespace AnalyticsQuery

open Calendar (ZoneDatabase)
open Document (entriesOf)

variable {zones : ZoneDatabase}

/-- What is checked of settings besides their types. -/
structure Config.Valid (zones : ZoneDatabase) (config : Config) : Prop where
  earliestDate : ∃ date, Calendar.Iso.readDate config.earliestDate = .ok date
  maxResults : 0 < config.maxResults
  zone : zones.Knows config.zone

theorem Config.valid_default (zones : ZoneDatabase) : Config.Valid zones {} where
  earliestDate := ⟨⟨731946, by decide⟩, by decide⟩
  maxResults := by decide
  zone := zones.knows_utc

namespace Setting

theorem exists_date_of_readDate {document : Document} {text : String}
    (h : readDate document = .ok text) : ∃ date, Calendar.Iso.readDate text = .ok date := by
  obtain ⟨written, _, hchecked⟩ := Reading.andThen_eq_ok_iff.1 h
  split at hchecked
  · rename_i date hdate
    exact ⟨date, Reading.ok.inj hchecked ▸ hdate⟩
  · exact nomatch hchecked

theorem pos_of_readPositive {document : Document} {value : Int}
    (h : readPositive document = .ok value) : 0 < value := by
  obtain ⟨number, _, hchecked⟩ := Reading.andThen_eq_ok_iff.1 h
  split at hchecked
  · rename_i hpositive
    rwa [← Reading.ok.inj hchecked]
  · exact nomatch hchecked

theorem knows_of_readZone {document : Document} {zone : Calendar.Zone}
    (h : readZone zones document = .ok zone) : zones.Knows zone := by
  obtain ⟨name, _, hchecked⟩ := Reading.andThen_eq_ok_iff.1 h
  cases hname : zones.zone? name with
  | none => simp [hname, Reading.reject] at hchecked
  | some known =>
      simp only [hname, Reading.ok.injEq] at hchecked
      exact ZoneDatabase.knows_of_zone? (hchecked ▸ hname)

/-- An accepted value for one setting keeps settings valid. -/
theorem valid_of_read {setting : Setting} {document : Document} {change : Config → Config}
    (h : setting.read zones document = .ok change) {config : Config}
    (hconfig : config.Valid zones) : (change config).Valid zones := by
  cases setting with
  | earliestDate =>
      obtain ⟨text, htext, rfl⟩ := Reading.map_eq_ok_iff.1 h
      exact ⟨exists_date_of_readDate htext, hconfig.maxResults, hconfig.zone⟩
  | latestDate =>
      obtain ⟨_, _, rfl⟩ := Reading.map_eq_ok_iff.1 h
      exact ⟨hconfig.earliestDate, hconfig.maxResults, hconfig.zone⟩
  | maxResults =>
      obtain ⟨value, hvalue, rfl⟩ := Reading.map_eq_ok_iff.1 h
      exact ⟨hconfig.earliestDate, pos_of_readPositive hvalue, hconfig.zone⟩
  | tablePrefix =>
      obtain ⟨_, _, rfl⟩ := Reading.map_eq_ok_iff.1 h
      exact ⟨hconfig.earliestDate, hconfig.maxResults, hconfig.zone⟩
  | zone =>
      obtain ⟨zone, hzone, rfl⟩ := Reading.map_eq_ok_iff.1 h
      exact ⟨hconfig.earliestDate, hconfig.maxResults, knows_of_readZone hzone⟩
  | includeEmptyRows =>
      obtain ⟨_, _, rfl⟩ := Reading.map_eq_ok_iff.1 h
      exact ⟨hconfig.earliestDate, hconfig.maxResults, hconfig.zone⟩

/-- Settings with one of them as in others. -/
def copy (setting : Setting) (source config : Config) : Config :=
  match setting with
  | earliestDate => { config with earliestDate := source.earliestDate }
  | latestDate => { config with latestDate := source.latestDate }
  | maxResults => { config with maxResults := source.maxResults }
  | tablePrefix => { config with tablePrefix := source.tablePrefix }
  | zone => { config with zone := source.zone }
  | includeEmptyRows => { config with includeEmptyRows := source.includeEmptyRows }

/-- A written setting is read as the change to its value. -/
theorem read_toDocument (setting : Setting) {config : Config} (hconfig : config.Valid zones) :
    setting.read zones (setting.toDocument config) = .ok (setting.copy config) := by
  cases setting with
  | earliestDate =>
      obtain ⟨date, hdate⟩ := hconfig.earliestDate
      have hread : readDate (.text config.earliestDate) = .ok config.earliestDate := by
        rw [readDate, Reading.string, Reading.ok_andThen, hdate]
      rw [read, toDocument, hread]
      rfl
  | latestDate => rfl
  | maxResults =>
      have hread : readPositive (.int config.maxResults) = .ok config.maxResults := by
        change (if 0 < config.maxResults then _ else _) = _
        rw [if_pos hconfig.maxResults]
      rw [read, toDocument, hread]
      rfl
  | tablePrefix => rfl
  | zone =>
      have hread : readZone zones (.text config.zone.name) = .ok config.zone := by
        have hzone : zones.zone? config.zone.name = some config.zone := hconfig.zone
        rw [readZone, Reading.string, Reading.ok_andThen, hzone]
      rw [read, toDocument, hread]
      rfl
  | includeEmptyRows => rfl

end Setting

namespace Config

variable {config : Config}

theorem valid_of_readSettings {entries : Document.Entries} {settings : List Setting}
    {change : Config → Config} (h : readSettings zones entries settings = .ok change)
    (hconfig : config.Valid zones) : (change config).Valid zones := by
  induction settings generalizing change config with
  | nil =>
      rw [← Reading.ok.inj h]
      exact hconfig
  | cons setting settings ih =>
      obtain ⟨_, changes, hfirst, hrest, rfl⟩ := Reading.seq_eq_ok_iff.1 h
      obtain ⟨first, hchange, rfl⟩ := Reading.map_eq_ok_iff.1 hfirst
      apply ih hrest
      unfold Label.optional at hchange
      split at hchange
      · rw [← Reading.ok.inj hchange]
        exact hconfig
      · exact Setting.valid_of_read (Reading.under_eq_ok_iff.1 hchange) hconfig

/-- Accepted settings are valid. -/
theorem valid_of_read {document : Document} (h : read zones document = .ok config) :
    config.Valid zones := by
  obtain ⟨entries, _, hsealed⟩ := Reading.andThen_eq_ok_iff.1 h
  obtain ⟨change, hchange, rfl⟩ := Reading.map_eq_ok_iff.1 (Reading.ok_of_sealed hsealed)
  exact valid_of_readSettings hchange (valid_default zones)

/-- The settings of a configuration, each as a part. -/
def givenParts (config : Config) : List (Label × Option Document) :=
  Setting.all.map fun setting => (setting.label, some (setting.toDocument config))

theorem apart_labels : (Setting.all.map Setting.label).Pairwise Label.Apart := by decide

theorem readSettings_of_given (hconfig : config.Valid zones) {entries : Document.Entries}
    (h : Given config.givenParts entries) (settings : List Setting) :
    readSettings zones entries settings =
      .ok fun start =>
        settings.foldl (fun config' setting => setting.copy config config') start := by
  induction settings with
  | nil => rfl
  | cons setting settings ih =>
      have hmem : setting ∈ Setting.all := by cases setting <;> decide
      have hpart : (setting.label, some (setting.toDocument config)) ∈ config.givenParts :=
        List.mem_map_of_mem hmem
      have hread : setting.label.optional entries id (setting.read zones) =
          .ok (setting.copy config) :=
        h.optional apart_labels hpart (.given rfl)
          (fun _ hdocument => hdocument ▸ setting.read_toDocument hconfig) False.elim
      rw [readSettings, hread, ih]
      rfl

theorem read_toDocument (hconfig : config.Valid zones) :
    read zones config.toDocument = .ok config := by
  have hgiven : Given config.givenParts (entriesOf (Setting.all.map fun setting =>
      (setting.name, setting.toDocument config))) :=
    .entriesOf_map
      (Setting.all.map fun setting : Setting => (setting.label, setting.toDocument config))
  rw [read, toDocument, Document.record, Reading.record, Reading.ok_andThen,
    readSettings_of_given hconfig hgiven]
  exact hgiven.sealed apart_labels config

end Config

end AnalyticsQuery
