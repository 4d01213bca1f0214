import ImportPolicy.Proofs.Config.Layering
import ImportPolicy.Proofs.Traversals
import ImportPolicy.Rule.Config

/-! # The ways to give options

Options are read where they are validated, where values are folded into a policy one by one, and where
a configuration takes them from its fields. All of these come to the same.

* `Policy.normalize_of_validate`, `Policy.validate_of_normalize_error` — values and the entries that
  they are validated as.
* `RuleConfig.read_withOptions` — the options among the fields of a configuration.
* `options_agree` — all ways to a policy. -/

namespace ImportPolicy

open Schema

namespace Policy

variable {values : List Value} {entries : List Entry} {e : OptionsError}

theorem ofItems_entries (entries : List Entry) :
    ofItems (entries.map .entry) = .ok (ofEntries entries) :=
  fold_entries {} entries

/-- Values in an accepted shape have the policy of their entries, however they are folded. -/
theorem normalize_of_validate (accepted : validate values = .ok entries) :
    normalize values = .ok (ofEntries entries) := by
  rw [normalize_eq, (validate_eq_ok_iff.1 accepted).1]
  rfl

theorem ofOptions_of_validate (accepted : validate values = .ok entries) :
    ofOptions values = .ok (ofEntries entries) := by
  rw [ofOptions_eq, accepted]
  rfl

/-- What stops the fold stops the validation before it looks at the shape. -/
theorem validate_of_normalize_error (refused : normalize values = .error e) :
    validate values = .error e := by
  rw [normalize_eq] at refused
  rw [validate]
  cases read : readEntries values with
  | error found =>
    rw [read] at refused
    cases refused
    rfl
  | ok found =>
    rw [read] at refused
    cases refused

end Policy

/-! ## Options among fields -/

namespace RuleConfig

/-- The fields of a configuration with some options. -/
def withOptions (fields : Mapping) (v : Value) : Mapping := fields.put "options" v

/-- A configuration depends on the list that its options stand for, and otherwise on the other
    fields. -/
theorem read_withOptions (fields : Mapping) (v : Value) :
    read (withOptions fields v) =
      mk <$> Reader.defaulted fields "enabled" true Reader.truth
        <*> Reader.defaulted fields "severity" .error Severity.reader
        <*> (options? v).under (.name "options") := by
  have enabled : Mapping.find? (withOptions fields v) "enabled" = Mapping.find? fields "enabled" := by
    rw [withOptions, Mapping.find?_put]
    rfl
  have severity : Mapping.find? (withOptions fields v) "severity" =
      Mapping.find? fields "severity" := by
    rw [withOptions, Mapping.find?_put]
    rfl
  have options : Mapping.find? (withOptions fields v) "options" = some v := by
    rw [withOptions, Mapping.find?_put]
    rfl
  rw [read, Reader.defaulted, Reader.defaulted, Reader.defaulted, enabled, severity, options]
  rfl

theorem read_withOptions_congr {v w : Value} (fields : Mapping) (same : options? v = options? w) :
    read (withOptions fields v) = read (withOptions fields w) := by
  rw [read_withOptions, read_withOptions, same]

end RuleConfig

/-- Options that are validated have one policy: that of the values, that of the entries that they are,
    and that of a configuration with these options. Values that are refused when they are folded are
    refused for the same reason when they are validated, and a configuration refuses what the
    validation does. In a configuration a text or a mapping stands for the list of it, and null for
    the empty list. -/
theorem options_agree (values : List Value) (fields : Mapping) :
    (∀ entries, Policy.validate values = .ok entries →
      ∃ p, Policy.normalize values = .ok p ∧ Policy.ofItems (entries.map .entry) = .ok p ∧
        RuleConfig.policy { options := values } = .ok p) ∧
    (∀ e, Policy.normalize values = .error e → Policy.validate values = .error e) ∧
    (∀ e, Policy.validate values = .error e → RuleConfig.policy { options := values } = .error e) ∧
    RuleConfig.read [(.str "options", .list values)] = .ok { options := values } ∧
    (∀ t : Text, RuleConfig.read (RuleConfig.withOptions fields (.str t)) =
      RuleConfig.read (RuleConfig.withOptions fields (.list [.str t]))) ∧
    (∀ m : Mapping, RuleConfig.read (RuleConfig.withOptions fields (.map m)) =
      RuleConfig.read (RuleConfig.withOptions fields (.list [.map m]))) ∧
    RuleConfig.read (RuleConfig.withOptions fields .null) =
      RuleConfig.read (RuleConfig.withOptions fields (.list [])) := by
  refine ⟨fun entries accepted => ?_, fun e => Policy.validate_of_normalize_error,
    fun e refused => ?_, rfl, fun t => ?_, fun m => ?_, ?_⟩
  · exact ⟨_, Policy.normalize_of_validate accepted, Policy.ofItems_entries entries,
      Policy.ofOptions_of_validate accepted⟩
  · rw [RuleConfig.policy, Policy.ofOptions_eq, refused]
    rfl
  · exact RuleConfig.read_withOptions_congr fields rfl
  · exact RuleConfig.read_withOptions_congr fields rfl
  · exact RuleConfig.read_withOptions_congr fields rfl

/-- A word and a flat table. -/
def wordAndTable : List Value := ["always", .map [("js", "never")]]

/-- Values of which the first and the last are no entries, the last being a word for none. -/
def twoFaults : List Value := [.bool true, "always", "often"]

theorem options_agree_wordAndTable :
    Policy.validate wordAndTable = .ok [.word .always, .flat [("js", .never)]] ∧
    (∃ p, Policy.normalize wordAndTable = .ok p ∧
      Policy.ofItems [.entry (.word .always), .entry (.flat [("js", .never)])] = .ok p ∧
      RuleConfig.policy { options := wordAndTable } = .ok p) ∧
    Policy.normalize twoFaults = .error (.noEntry (.bool true)) ∧
    Policy.validate twoFaults = .error (.noEntry (.bool true)) ∧
    RuleConfig.policy { options := twoFaults } = .error (.noEntry (.bool true)) := by
  have accepted :
      Policy.validate wordAndTable = .ok [.word .always, .flat [("js", .never)]] := rfl
  have refused : Policy.normalize twoFaults = .error (.noEntry (.bool true)) := rfl
  have validated := (options_agree twoFaults []).2.1 _ refused
  exact ⟨accepted, (options_agree wordAndTable []).1 _ accepted, refused, validated,
    (options_agree twoFaults []).2.2.1 _ validated⟩

end ImportPolicy
