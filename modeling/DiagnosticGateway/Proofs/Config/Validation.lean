import Mathlib.Data.List.Basic
import DiagnosticGateway.Gateway.Basic
import DiagnosticGateway.Proofs.Text.Hex
import DiagnosticGateway.Proofs.Wire.Payload

/-!
# What a configuration has to meet

A configuration is judged by a list of requirements, in order, each with the fault that is reported
if it is the first that is not met. The list is that of the usable configurations: a gateway with a
name, identification numbers that denote bytes, limits that are not zero, and ECUs with names and
readable lookup tables. To make a gateway is to judge its configuration once more, and to build the
ECUs repeats a part of it, so a gateway can be made of every configuration that is valid.

Which patterns compile is for the library of regular expressions to say. All of this holds for every
library, whatever it compiles.
-/

namespace DiagnosticGateway

open Text (Hex.isDigit Hex.firstStray)

/-- A condition on a configuration, with the fault that is reported if it is not met. -/
structure Requirement where
  met : Bool
  fault : ConfigFault

namespace Requirement

/-- Judge by requirements in order: the first that is not met is reported. -/
def judge : List Requirement → Except ConfigFault Unit
  | [] => .ok ()
  | requirement :: rest => if requirement.met then judge rest else .error requirement.fault

variable {requirements : List Requirement} {fault : ConfigFault}

/-- Requirements are judged in their order, and the first that is not met decides. -/
theorem judge_append (earlier later : List Requirement) :
    judge (earlier ++ later) = judge earlier >>= fun _ => judge later := by
  induction earlier with
  | nil => rfl
  | cons requirement rest inductionHypothesis =>
    simp only [List.cons_append, judge, inductionHypothesis]
    split <;> rfl

/-- All requirements are met if none is reported. -/
theorem judge_eq_ok_iff :
    judge requirements = .ok () ↔ ∀ requirement ∈ requirements, requirement.met = true := by
  induction requirements with
  | nil => simp [judge]
  | cons requirement rest inductionHypothesis =>
    cases met : requirement.met <;> simp [judge, met, inductionHypothesis]

/-- The requirement that is reported is not met, and all before it are. So the order of the
requirements is part of what is stated about a configuration with several faults. -/
theorem judge_eq_error_iff :
    judge requirements = .error fault ↔
      ∃ earlier requirement later, requirements = earlier ++ requirement :: later ∧
        (∀ other ∈ earlier, other.met = true) ∧ requirement.met = false ∧
        requirement.fault = fault := by
  constructor
  · intro reported
    induction requirements with
    | nil => cases reported
    | cons requirement rest inductionHypothesis =>
      unfold judge at reported
      split at reported
      · rename_i met
        obtain ⟨earlier, culprit, later, split, fine, unmet, same⟩ := inductionHypothesis reported
        refine ⟨requirement :: earlier, culprit, later, congrArg _ split, ?_, unmet, same⟩
        exact List.forall_mem_cons.mpr ⟨met, fine⟩
      · rename_i unmet
        exact ⟨[], requirement, rest, rfl, fun _ member => absurd member List.not_mem_nil,
          Bool.eq_false_iff.mpr unmet, Except.error.inj reported⟩
  · rintro ⟨earlier, requirement, later, rfl, fine, unmet, rfl⟩
    rw [judge_append, judge_eq_ok_iff.mpr fine]
    simp only [judge, unmet]
    rfl

end Requirement

open Requirement (judge judge_append)

/-! ## The requirements, in order -/

/-- A text denotes bytes if there is an even number of bytes in it and all its characters are
digits. -/
def hexRequirements (text : String) (report : Text.Hex.Fault → ConfigFault) : List Requirement :=
  let bytes := Bytes.ofText text
  [⟨bytes.length % 2 = 0, report .oddLength⟩,
    ⟨text.toList.all Hex.isDigit,
      report (.invalidDigit (bytes.getD (Hex.firstStray bytes) 0) (Hex.firstStray bytes))⟩]

/-- The text of an identification number without its separators. -/
def identifierDigits (text : String) : String :=
  String.ofList (text.toList.filter fun char => !isSeparator char)

/-- An identification number has twelve digits. -/
def identifierRequirements (field text : String) : List Requirement :=
  let digits := identifierDigits text
  hexRequirements digits (fun fault => .invalidIdentifier field (.notHex fault)) ++
    [⟨digits.toList.length = 12,
      .invalidIdentifier field (.wrongBytes (digits.toList.length / 2))⟩]

/-- A vehicle identification number has seventeen ASCII characters. -/
def vinRequirements (text : String) : List Requirement :=
  [⟨text.toList.all fun char => char.toNat < 0x80, .invalidIdentifier "vin" .notAscii⟩,
    ⟨(Bytes.ofText text).length = 17,
      .invalidIdentifier "vin" (.wrongCharacters (Bytes.ofText text).length)⟩]

/-- What a library says is wrong with a text, if it does not compile it. -/
def Pattern.Library.complaint (library : Pattern.Library) (text : String) : String :=
  match library.compile text with
  | .ok _ => ""
  | .error reason => reason

/-- The pattern of a line compiles, and its response is hexadecimal and not empty. -/
def ruleRequirements (library : Pattern.Library) (ecu : String) (rule : Ecu.LookupRule) :
    List Requirement :=
  let report := ConfigFault.invalidLookup ecu rule.request
  let pattern := Pattern.wrap (Text.withoutBlanks rule.request)
  let response := Text.withoutBlanks rule.response
  ⟨(library.compile pattern).toOption.isSome,
      report (.faultyPattern (library.complaint pattern))⟩ ::
    (hexRequirements response (fun fault => report (.faultyResponse fault)) ++
      [⟨!response.toList.isEmpty, report .emptyResponse⟩])

/-- The ECU at a place has a name, and its lookup table can be read. -/
def ecuRequirements (library : Pattern.Library) (index : Nat) (ecu : EcuConfig) :
    List Requirement :=
  ⟨!Text.isAllBlank ecu.name, .unnamedEcu index⟩ ::
    ecu.lookup.flatMap (ruleRequirements library ecu.name)

/-- The requirements of a configuration. -/
def GatewayConfig.requirements (library : Pattern.Library) (config : GatewayConfig) :
    List Requirement :=
  ⟨!Text.isAllBlank config.name, .emptyName⟩ ::
    (vinRequirements config.vin ++ identifierRequirements "eid" config.eid ++
      identifierRequirements "gid" config.gid ++
      [⟨config.maxRegisteredConnections ≠ 0, .noRegisteredConnections⟩,
        ⟨config.initialInactivityTime ≠ 0, .zeroDuration "initial_inactivity_time_ms"⟩,
        ⟨config.generalInactivityTime ≠ 0, .zeroDuration "general_inactivity_time_ms"⟩] ++
      config.ecus.zipIdx.flatMap fun entry => ecuRequirements library entry.2 entry.1)

/-! ## Validation judges by the requirements -/

variable {library : Pattern.Library}

/-- To read hexadecimal text is to judge it first. The length is judged before the digits, as
decoding does it; then the first stray byte is the fault. -/
theorem judge_hexRequirements (text : String) (report : Text.Hex.Fault → ConfigFault) :
    judge (hexRequirements text report) = discard ((Text.Hex.decode text).mapError report) := by
  by_cases even : (Bytes.ofText text).length % 2 = 0
  · by_cases spelled : ∀ char ∈ text.toList, Hex.isDigit char = true
    · obtain ⟨bytes, read, -⟩ := Text.Hex.decode_of_digits even spelled
      have all : text.toList.all Hex.isDigit = true := List.all_eq_true.mpr spelled
      simp only [hexRequirements, judge, even, decide_true, if_true, all, read]
      rfl
    · have unlike : text.toList.all Hex.isDigit = false :=
        Bool.eq_false_iff.mpr (mt List.all_eq_true.mp spelled)
      simp only [hexRequirements, judge, even, decide_true, if_true, unlike,
        Text.Hex.decode_of_stray even spelled]
      rfl
  · simp only [hexRequirements, judge, even, decide_false, Text.Hex.decode_of_odd even]
    rfl

/-- What is read from hexadecimal text has a byte for two characters. -/
theorem length_of_decode {text : String} {bytes : Bytes} (read : Text.Hex.decode text = .ok bytes) :
    text.toList.length = 2 * bytes.length := by
  have spells := Text.Hex.decode_eq_ok_iff.mp read
  rw [← Text.Hex.length_upperChars, ← spells, List.length_map]

/-- Judging the VIN by its requirements fails as reading it does. The characters come before their
number, as in the reader. -/
theorem judge_vinRequirements (text : String) :
    judge (vinRequirements text) = discard (readVin text) := by
  unfold readVin vinRequirements Wire.Octets.ofList?
  simp only [judge]
  split
  · by_cases exact : (Bytes.ofText text).length = 17
    · simp only [exact, decide_true, if_true, dif_pos]
      rfl
    · simp only [exact, decide_false, dif_neg, not_false_eq_true]
      rfl
  · rfl

/-- An identification number is read from its digits. -/
theorem readIdentifier_eq (field text : String) :
    readIdentifier field text =
      match Text.Hex.decode (identifierDigits text) with
      | .error fault => .error (.invalidIdentifier field (.notHex fault))
      | .ok bytes =>
        match Wire.Octets.ofList? 6 bytes with
        | some identifier => .ok identifier
        | none => .error (.invalidIdentifier field (.wrongBytes bytes.length)) :=
  rfl

/-- An identifier is judged as it is read, with the same fault and the same field. Once its
characters are digits, the number of bytes is half their number, and twelve digits are the six bytes
of an identifier. -/
theorem judge_identifierRequirements (field text : String) :
    judge (identifierRequirements field text) = discard (readIdentifier field text) := by
  rw [readIdentifier_eq]
  simp only [identifierRequirements, judge_append, judge_hexRequirements]
  cases read : Text.Hex.decode (identifierDigits text) with
  | error fault => rfl
  | ok bytes =>
    have length := length_of_decode read
    by_cases exact : bytes.length = 6
    · have twelve : (identifierDigits text).toList.length = 12 := by omega
      simp only [judge, twelve, Wire.Octets.ofList?, exact, decide_true, if_true, dif_pos]
      rfl
    · have unlike : ¬ (identifierDigits text).toList.length = 12 := by omega
      have half : (identifierDigits text).toList.length / 2 = bytes.length := by omega
      simp only [judge, unlike, half, Wire.Octets.ofList?, exact, decide_false, dif_neg,
        not_false_eq_true]
      rfl

/-- To read the identification of a configuration is to judge its three numbers. The requirements of
each number are judged apart, and a number that is read has met all of its own. -/
theorem judge_identity (config : GatewayConfig) :
    judge (vinRequirements config.vin ++ identifierRequirements "eid" config.eid ++
      identifierRequirements "gid" config.gid) = discard config.identity := by
  simp only [judge_append, judge_vinRequirements, judge_identifierRequirements,
    GatewayConfig.identity]
  cases readVin config.vin with
  | error fault => rfl
  | ok vin =>
    cases readIdentifier "eid" config.eid with
    | error fault => rfl
    | ok eid => cases readIdentifier "gid" config.gid <;> rfl

/-- A lookup rule is judged as it is turned into an entry, whatever the library makes of its
pattern. -/
theorem judge_ruleRequirements (ecu : String) (rule : Ecu.LookupRule) :
    judge (ruleRequirements library ecu rule) =
      discard ((Ecu.LookupEntry.ofRule library rule).mapError
        (ConfigFault.invalidLookup ecu rule.request)) := by
  unfold ruleRequirements Ecu.LookupEntry.ofRule Pattern.Library.complaint
  simp only [judge]
  cases library.compile (Pattern.wrap (Text.withoutBlanks rule.request)) with
  | error reason => rfl
  | ok pattern =>
    simp only [Except.toOption, Option.isSome_some, if_true, judge_append, judge_hexRequirements]
    cases read : Text.Hex.decode (Text.withoutBlanks rule.response) with
    | error fault => rfl
    | ok bytes =>
      have length := length_of_decode read
      cases bytes with
      | nil =>
        have empty : (Text.withoutBlanks rule.response).toList = [] :=
          List.length_eq_zero_iff.mp length
        simp only [judge, empty]
        rfl
      | cons byte rest =>
        have filled : (Text.withoutBlanks rule.response).toList.isEmpty = false := by
          rw [List.isEmpty_eq_false_iff, ← List.length_pos_iff, length]
          exact Nat.mul_pos Nat.two_pos (Nat.succ_pos _)
        simp only [judge, filled]
        rfl

/-- The rules of an ECU are judged in their order, as its table is made. The induction is on the
rules, each of which is judged before those after it. -/
theorem judge_lookup (ecu : EcuConfig) :
    judge (ecu.lookup.flatMap (ruleRequirements library ecu.name)) =
      discard (ecu.lookupTable library) := by
  unfold EcuConfig.lookupTable Ecu.LookupTable.ofRules
  induction ecu.lookup with
  | nil => rfl
  | cons rule rest inductionHypothesis =>
    rw [List.flatMap_cons, judge_append, judge_ruleRequirements, inductionHypothesis]
    simp only [Ecu.LookupTable.entriesOf]
    cases Ecu.LookupEntry.ofRule library rule with
    | error fault => rfl
    | ok entry => cases Ecu.LookupTable.entriesOf library rest <;> rfl

/-- The ECUs are judged one after the other, each under its index. The index is general, as it grows
from one ECU to the next. -/
theorem judge_ecus (index : Nat) (ecus : List EcuConfig) :
    judge ((ecus.zipIdx index).flatMap fun entry => ecuRequirements library entry.2 entry.1) =
      GatewayConfig.validateEcus library index ecus := by
  induction ecus generalizing index with
  | nil => rfl
  | cons ecu rest inductionHypothesis =>
    rw [List.zipIdx_cons, List.flatMap_cons, judge_append, inductionHypothesis]
    simp only [ecuRequirements, judge, judge_lookup, GatewayConfig.validateEcus]
    cases Text.isAllBlank ecu.name with
    | true => rfl
    | false => cases ecu.lookupTable library <;> rfl

/-- A configuration is judged by its requirements. The fields of the gateway come first, in the
order in which they are checked, and then the ECUs, each with its rules. -/
theorem GatewayConfig.validate_eq (config : GatewayConfig) :
    config.validate library = judge (config.requirements library) := by
  rw [requirements, judge, judge_append, judge_append, judge_identity, judge_ecus]
  unfold validate
  cases Text.isAllBlank config.name with
  | true => rfl
  | false =>
    cases config.identity with
    | error fault => rfl
    | ok identity =>
      simp only [judge, decide_not, Bool.not_eq_true', decide_eq_false_iff_not, ite_not]
      by_cases connections : config.maxRegisteredConnections = 0
      · rw [if_pos connections, if_pos connections]
        rfl
      by_cases initial : config.initialInactivityTime = 0
      · rw [if_neg connections, if_neg connections, if_pos initial, if_pos initial]
        rfl
      by_cases general : config.generalInactivityTime = 0
      · rw [if_neg connections, if_neg connections, if_neg initial, if_neg initial, if_pos general,
          if_pos general]
        rfl
      · rw [if_neg connections, if_neg connections, if_neg initial, if_neg initial, if_neg general,
          if_neg general]
        rfl

/-! ## Usable configurations -/

/-- A line of a lookup table can be read: its pattern compiles, and its response has an even number
of digits, at least two. -/
structure Ecu.LookupRule.Usable (library : Pattern.Library) (rule : Ecu.LookupRule) : Prop where
  pattern : ∃ pattern,
    library.compile (Pattern.wrap (Text.withoutBlanks rule.request)) = .ok pattern
  digits : ∀ char ∈ (Text.withoutBlanks rule.response).toList, Hex.isDigit char = true
  even : (Text.withoutBlanks rule.response).toList.length % 2 = 0
  filled : (Text.withoutBlanks rule.response).toList ≠ []

/-- An ECU has a name, and its lookup table can be read. -/
structure EcuConfig.Usable (library : Pattern.Library) (config : EcuConfig) : Prop where
  named : ∃ char ∈ config.name.toList, Text.isBlank char = false
  lookup : ∀ rule ∈ config.lookup, rule.Usable library

/-- A text has twelve digits, whatever separates them. -/
structure SpellsIdentifier (text : String) : Prop where
  digits : ∀ char ∈ (identifierDigits text).toList, Hex.isDigit char = true
  twelve : (identifierDigits text).toList.length = 12

/-- A configuration that a gateway can be made of. Nothing is said of how its texts are read, only
of the characters and numbers in them. -/
structure GatewayConfig.Usable (library : Pattern.Library) (config : GatewayConfig) : Prop where
  named : ∃ char ∈ config.name.toList, Text.isBlank char = false
  ascii : ∀ char ∈ config.vin.toList, char.toNat < 0x80
  seventeen : (Bytes.ofText config.vin).length = 17
  eid : SpellsIdentifier config.eid
  gid : SpellsIdentifier config.gid
  registered : config.maxRegisteredConnections ≠ 0
  initial : config.initialInactivityTime ≠ 0
  general : config.generalInactivityTime ≠ 0
  ecus : ∀ ecu ∈ config.ecus, ecu.Usable library

/-- A text is a name if some character of it is not blank. -/
theorem named_iff (text : String) :
    (!Text.isAllBlank text) = true ↔ ∃ char ∈ text.toList, Text.isBlank char = false := by
  simp [Text.isAllBlank]

/-- Digits are met if all characters are digits and their number is even. -/
theorem hexRequirements_met_iff (text : String) (report : Text.Hex.Fault → ConfigFault) :
    (∀ requirement ∈ hexRequirements text report, requirement.met = true) ↔
      (∀ char ∈ text.toList, Hex.isDigit char = true) ∧ text.toList.length % 2 = 0 := by
  simp only [hexRequirements, List.forall_mem_cons, List.not_mem_nil, false_implies,
    implies_true, List.all_eq_true, decide_eq_true_eq, and_true]
  constructor
  · rintro ⟨even, spelled⟩
    exact ⟨spelled, Text.Hex.length_ofText_of_digits spelled ▸ even⟩
  · rintro ⟨spelled, even⟩
    exact ⟨(Text.Hex.length_ofText_of_digits spelled).symm ▸ even, spelled⟩

/-- The requirements on an identifier are met by the texts that spell one. Twelve is an even number,
so the requirement of an even number of digits adds nothing. -/
theorem identifierRequirements_met_iff (field text : String) :
    (∀ requirement ∈ identifierRequirements field text, requirement.met = true) ↔
      SpellsIdentifier text := by
  simp only [identifierRequirements, List.forall_mem_append, hexRequirements_met_iff,
    List.forall_mem_cons, List.not_mem_nil, false_implies, implies_true, decide_eq_true_eq,
    and_true]
  constructor
  · rintro ⟨⟨digits, -⟩, twelve⟩
    exact ⟨digits, twelve⟩
  · rintro ⟨digits, twelve⟩
    exact ⟨⟨digits, by rw [twelve]⟩, twelve⟩

/-- The requirements on a rule are met by the rules whose response is hexadecimal and whose pattern
compiles. -/
theorem ruleRequirements_met_iff (ecu : String) (rule : Ecu.LookupRule) :
    (∀ requirement ∈ ruleRequirements library ecu rule, requirement.met = true) ↔
      rule.Usable library := by
  have compiles : ∀ {result : Except String Pattern},
      result.toOption.isSome = true ↔ ∃ pattern, result = .ok pattern := by
    intro result
    cases result <;> simp [Except.toOption]
  simp only [ruleRequirements, List.forall_mem_cons, List.forall_mem_append,
    hexRequirements_met_iff, List.not_mem_nil, false_implies, implies_true, and_true,
    compiles, Bool.not_eq_true', List.isEmpty_eq_false_iff]
  constructor
  · rintro ⟨pattern, ⟨digits, even⟩, filled⟩
    exact ⟨pattern, digits, even, filled⟩
  · rintro ⟨pattern, digits, even, filled⟩
    exact ⟨pattern, ⟨digits, even⟩, filled⟩

/-- The requirements on an ECU are met by those that have a name and a table the library can use. -/
theorem ecuRequirements_met_iff (index : Nat) (ecu : EcuConfig) :
    (∀ requirement ∈ ecuRequirements library index ecu, requirement.met = true) ↔
      ecu.Usable library := by
  simp only [ecuRequirements, List.forall_mem_cons, named_iff, List.forall_mem_flatMap,
    ruleRequirements_met_iff]
  exact ⟨fun ⟨named, lookup⟩ => ⟨named, lookup⟩, fun ⟨named, lookup⟩ => ⟨named, lookup⟩⟩

namespace GatewayConfig

/-- All requirements are met by the usable configurations, and by no others. One requirement
after the other is put into words: the VIN, the two identifiers, and for each ECU its name and
its rules. -/
theorem requirements_met_iff (config : GatewayConfig) :
    (∀ requirement ∈ config.requirements library, requirement.met = true) ↔
      config.Usable library := by
  have ecus : (∀ entry ∈ config.ecus.zipIdx, entry.1.Usable library) ↔
      ∀ ecu ∈ config.ecus, ecu.Usable library := by
    constructor
    · intro all ecu member
      obtain ⟨index, found⟩ := List.getElem?_of_mem member
      exact all (ecu, index) (List.mem_zipIdx_iff_getElem?.mpr found)
    · exact fun all entry member => all entry.1 (List.fst_mem_of_mem_zipIdx member)
  simp only [requirements, List.forall_mem_cons, List.forall_mem_append, List.forall_mem_flatMap,
    named_iff, identifierRequirements_met_iff, ecuRequirements_met_iff, ecus, vinRequirements,
    List.not_mem_nil, false_implies, implies_true, and_true, List.all_eq_true, decide_eq_true_eq]
  constructor
  · rintro ⟨named, ⟨⟨⟨⟨ascii, seventeen⟩, eid⟩, gid⟩, registered, initial, general⟩, usable⟩
    exact ⟨named, ascii, seventeen, eid, gid, registered, initial, general, usable⟩
  · rintro ⟨named, ascii, seventeen, eid, gid, registered, initial, general, usable⟩
    exact ⟨named, ⟨⟨⟨⟨ascii, seventeen⟩, eid⟩, gid⟩, registered, initial, general⟩, usable⟩

end GatewayConfig

/-! ## Identification -/

/-- The identification that the texts of a configuration denote. -/
structure VehicleIdentity.DenotedBy (config : GatewayConfig) (identity : VehicleIdentity) :
    Prop where
  ascii : ∀ char ∈ config.vin.toList, char.toNat < 0x80
  vin : identity.vin.toList = config.vin.toList.map fun char => UInt8.ofNat char.toNat
  eid : Text.Hex.upperChars identity.eid.toList =
    (identifierDigits config.eid).toList.map Char.toUpper
  gid : Text.Hex.upperChars identity.gid.toList =
    (identifierDigits config.gid).toList.map Char.toUpper
  logicalAddress : identity.logicalAddress = config.logicalAddress

/-- A VIN is read from seventeen ASCII characters, and its octets are their codes. The octets are
seventeen by their type, so the length needs no condition of its own; ASCII is what makes the
characters and the bytes of the text agree. -/
theorem readVin_eq_ok_iff {text : String} {vin : Wire.Octets 17} :
    readVin text = .ok vin ↔ (∀ char ∈ text.toList, char.toNat < 0x80) ∧
      vin.toList = text.toList.map fun char => UInt8.ofNat char.toNat := by
  unfold readVin
  constructor
  · intro read
    split at read
    · rename_i all
      have ascii : ∀ char ∈ text.toList, char.toNat < 0x80 := by simpa using all
      simp only at read
      split at read
      · rename_i found bytes
        obtain rfl := Except.ok.inj read
        rw [← Wire.Octets.ofList?_eq_some_iff.mp bytes]
        exact ⟨ascii, Bytes.ofText_of_ascii ascii⟩
      · cases read
    · cases read
  · rintro ⟨ascii, bytes⟩
    have all : (text.toList.all fun char => decide (char.toNat < 0x80)) = true := by
      simpa using ascii
    rw [if_pos all, Bytes.ofText_of_ascii ascii, ← bytes]
    simp only [Wire.Octets.ofList?_toList]

/-- An identifier is read from twelve digits in either case, separators apart, and its octets are
those the digits spell. -/
theorem readIdentifier_eq_ok_iff {field text : String} {identifier : Wire.Octets 6} :
    readIdentifier field text = .ok identifier ↔
      Text.Hex.upperChars identifier.toList = (identifierDigits text).toList.map Char.toUpper := by
  rw [readIdentifier_eq, Eq.comm (a := Text.Hex.upperChars _), ← Text.Hex.decode_eq_ok_iff]
  cases Text.Hex.decode (identifierDigits text) with
  | error fault => simp
  | ok bytes =>
    simp only [Except.ok.injEq, ← Wire.Octets.ofList?_eq_some_iff]
    cases Wire.Octets.ofList? 6 bytes <;> simp

namespace GatewayConfig

variable {config : GatewayConfig} {identity : VehicleIdentity} {fault : ConfigFault}

/-- The identification that is given is the one that the texts denote. Each field is read from its
own text, and the logical address is taken as it stands. -/
theorem identity_eq_ok_iff : config.identity = .ok identity ↔ identity.DenotedBy config := by
  obtain ⟨vin, eid, gid, logicalAddress⟩ := identity
  have parts : config.identity = .ok ⟨vin, eid, gid, logicalAddress⟩ ↔
      readVin config.vin = .ok vin ∧ readIdentifier "eid" config.eid = .ok eid ∧
        readIdentifier "gid" config.gid = .ok gid ∧ config.logicalAddress = logicalAddress := by
    unfold GatewayConfig.identity
    cases readVin config.vin <;> cases readIdentifier "eid" config.eid <;>
      cases readIdentifier "gid" config.gid <;> simp [bind, Except.bind, pure, Except.pure]
  rw [parts, readVin_eq_ok_iff, readIdentifier_eq_ok_iff, readIdentifier_eq_ok_iff]
  constructor
  · rintro ⟨⟨ascii, vin⟩, eid, gid, rfl⟩
    exact ⟨ascii, vin, eid, gid, rfl⟩
  · rintro ⟨ascii, vin, eid, gid, same⟩
    exact ⟨⟨ascii, vin⟩, eid, gid, same.symm⟩

/-- A valid configuration has an identification, and its lookup tables can be read. What validation
has looked at without keeping it is read again, and cannot fail then. -/
theorem readable_of_valid (valid : config.validate library = .ok ()) :
    (∃ identity, config.identity = .ok identity) ∧
      ∀ ecu ∈ config.ecus, ∃ table, ecu.lookupTable library = .ok table := by
  have met := Requirement.judge_eq_ok_iff.mp (config.validate_eq ▸ valid)
  have read : ∀ {result : Type} {source : Except ConfigFault result},
      discard source = Except.ok () → ∃ value, source = .ok value := by
    intro result source done
    cases source with
    | error fault => cases done
    | ok value => exact ⟨value, rfl⟩
  constructor
  · refine read ((judge_identity config).symm.trans (Requirement.judge_eq_ok_iff.mpr ?_))
    intro requirement member
    refine met requirement ?_
    simp only [requirements, List.mem_cons, List.mem_append] at member ⊢
    tauto
  · intro ecu member
    refine read ((judge_lookup ecu).symm.trans (Requirement.judge_eq_ok_iff.mpr ?_))
    intro requirement listed
    have usable := (config.requirements_met_iff.mp met).ecus ecu member
    exact (ecuRequirements_met_iff 0 ecu).mpr usable requirement (List.mem_cons_of_mem _ listed)

end GatewayConfig

/-! ## Making a gateway -/

/-- An ECU can be built if its lookup table can be read. The induction is on the configurations, one
table after the other. -/
theorem EcuConfig.builds {configs : List EcuConfig} (maxLookup maxLogging : Nat)
    (readable : ∀ config ∈ configs, ∃ table, config.lookupTable library = .ok table) :
    ∃ ecus, configs.mapM (EcuConfig.build library maxLookup maxLogging) = .ok ecus := by
  induction configs with
  | nil => exact ⟨[], rfl⟩
  | cons config rest inductionHypothesis =>
    obtain ⟨table, read⟩ := readable config List.mem_cons_self
    obtain ⟨ecus, built⟩ := inductionHypothesis fun other member =>
      readable other (List.mem_cons_of_mem _ member)
    have first : config.build library maxLookup maxLogging = .ok (.new config.name
        config.physicalAddress config.functionalAddress table maxLookup maxLogging) := by
      rw [build, read]
    exact ⟨_, by rw [List.mapM_cons, first, built]; rfl⟩

namespace Gateway

variable {config : GatewayConfig}

/-- A gateway can be made of every valid configuration. What was validated is read once more when
the gateway is made, and it is read with the same result. -/
theorem new_of_valid (valid : config.validate library = .ok ()) :
    ∃ gateway ecus, Gateway.new library config = .ok gateway ∧
      config.buildEcus library = .ok ecus ∧ withEcus library config ecus = .ok gateway := by
  obtain ⟨⟨identity, identified⟩, readable⟩ := GatewayConfig.readable_of_valid valid
  obtain ⟨ecus, built⟩ := EcuConfig.builds config.maxLookup config.maxLogging readable
  have builds : config.buildEcus library = .ok ecus := built
  have makes : Gateway.new library config = withEcus library config ecus := by
    simp only [Gateway.new, valid, builds]
  rw [makes]
  simp only [withEcus, valid, identified]
  exact ⟨_, ecus, rfl, builds, rfl⟩

end Gateway

/-! ## Judgement of a configuration -/

/-- Two configurations give the same identification, but for the case of digits and for
separators. -/
structure GatewayConfig.IdentifiedLike (config other : GatewayConfig) : Prop where
  vin : other.vin = config.vin
  eid : (identifierDigits other.eid).toList.map Char.toUpper =
    (identifierDigits config.eid).toList.map Char.toUpper
  gid : (identifierDigits other.gid).toList.map Char.toUpper =
    (identifierDigits config.gid).toList.map Char.toUpper
  logicalAddress : other.logicalAddress = config.logicalAddress

/-- How a configuration is judged, and what is made of it. What is accepted, under which fault
anything else is refused, and what a gateway has from a configuration that was accepted. -/
structure GatewayConfig.Judged (library : Pattern.Library) (config : GatewayConfig) : Prop where
  /-- The usable configurations are valid, and no others. -/
  accepted : config.validate library = .ok () ↔ config.Usable library
  /-- The fault of any other is that of the first requirement that is not met. -/
  refused : ∀ fault, config.validate library = .error fault ↔
    ∃ earlier requirement later, config.requirements library = earlier ++ requirement :: later ∧
      (∀ other ∈ earlier, other.met = true) ∧ requirement.met = false ∧ requirement.fault = fault
  /-- A usable configuration gives the identification that its texts denote. -/
  identified : config.Usable library → ∃ identity, config.identity = .ok identity ∧
    identity.DenotedBy config
  /-- Neither the case of digits nor separators matter. -/
  alike : ∀ identity other, config.identity = .ok identity → config.IdentifiedLike other →
    other.identity = .ok identity
  /-- A gateway is made of a valid configuration, with its identification. -/
  made : config.validate library = .ok () → ∃ gateway, Gateway.new library config = .ok gateway ∧
    gateway.config = config ∧ config.identity = .ok gateway.identity
  /-- Of any other none is made, for the same reason. -/
  unmade : ∀ fault, config.validate library = .error fault →
    Gateway.new library config = .error (.invalidConfiguration fault)

/-- Every configuration is judged like that, whatever the library compiles. The library decides
which patterns compile and nothing else; all the other requirements are about texts. -/
theorem GatewayConfig.judged (library : Pattern.Library) (config : GatewayConfig) :
    config.Judged library where
  accepted := by
    rw [validate_eq, Requirement.judge_eq_ok_iff, requirements_met_iff]
  refused fault := by
    rw [validate_eq, Requirement.judge_eq_error_iff]
  identified usable := by
    have valid : config.validate library = .ok () := by
      rw [validate_eq, Requirement.judge_eq_ok_iff, requirements_met_iff]
      exact usable
    obtain ⟨⟨identity, identified⟩, -⟩ := readable_of_valid valid
    exact ⟨identity, identified, identity_eq_ok_iff.mp identified⟩
  alike identity other identified alike := by
    obtain ⟨ascii, vin, eid, gid, logicalAddress⟩ := identity_eq_ok_iff.mp identified
    refine identity_eq_ok_iff.mpr ⟨?_, ?_, ?_, ?_, ?_⟩
    · rw [alike.vin]
      exact ascii
    · rw [alike.vin]
      exact vin
    · exact eid.trans alike.eid.symm
    · exact gid.trans alike.gid.symm
    · exact logicalAddress.trans alike.logicalAddress.symm
  made valid := by
    obtain ⟨gateway, ecus, made, -, same⟩ := Gateway.new_of_valid valid
    refine ⟨gateway, made, ?_⟩
    unfold Gateway.withEcus at same
    split at same
    · cases same
    · cases same
    · rename_i identity _ identified
      obtain rfl := Except.ok.inj same
      exact ⟨rfl, identified⟩
  unmade fault refused := by
    simp only [Gateway.new, refused]

end DiagnosticGateway
