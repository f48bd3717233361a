import UpgradeDrill.Proofs.Node.Reports
import UpgradeDrill.Proofs.Query.Field
import UpgradeDrill.Proofs.Text.Bytes

/-!
# Identities that nodes tell

A node tells its identity in four fields, which are read in order: the moniker, the public key in
base 64, the address and the voting power. The identity is read exactly if each field is what it has
to be and the moniker is the expected one, and otherwise the error is that of the first field that
fails, but for another moniker, which hides whatever else is wrong (`identity_read`).
-/

namespace UpgradeDrill

namespace Sequencer

open Json

variable {expected : String} {result : Json} {info : NodeInfo}

/-- The result of a `status` request tells an identity, under the expected moniker. -/
structure Tells (expected : String) (result : Json) (info : NodeInfo) : Prop where
  moniker : result.follow? ["node_info", "moniker"] = some (.str expected)
  named : info.moniker = expected
  key : ∃ text bytes,
    result.follow? ["validator_info", "pub_key", "value"] = some (.str text) ∧
      Base64.Spells text.toList bytes ∧ info.pubKey = Hex.ofBytes bytes
  address : result.follow? ["validator_info", "address"] = some (.str info.address)
  votingPower : result.uint64Field ["validator_info", "voting_power"] = .ok info.votingPower

/-- What is wrong with each field of an identity, in the order in which they are read. -/
def identityFaults (result : Json) : List (Option QueryError) :=
  [result.fault? toText? ["node_info", "moniker"],
    result.fault? bytesIn? ["validator_info", "pub_key", "value"],
    result.fault? toText? ["validator_info", "address"],
    result.fault? toUInt64? ["validator_info", "voting_power"]]

lemma toText?_eq_some_iff {value : Json} {text : String} :
    toText? value = some text ↔ value = .str text := by
  cases value <;> simp [toText?]

lemma textField_eq_ok_iff {value : Json} {path : List String} {text : String} :
    value.textField path = .ok text ↔ value.follow? path = some (.str text) := by
  simp only [textField, fieldAs_eq_ok_iff, toText?_eq_some_iff, exists_eq_right]

lemma bytesIn?_eq_some_iff {value : Json} {bytes : List UInt8} :
    bytesIn? value = some bytes ↔ ∃ text, value = .str text ∧ Base64.Spells text.toList bytes := by
  cases value <;> simp [bytesIn?, Base64.decode?_eq_some_iff]

/-- A node with another moniker is refused before anything else is read. -/
lemma nodeInfoIn_of_moniker_ne {reported : String}
    (told : result.follow? ["node_info", "moniker"] = some (.str reported))
    (ne : reported ≠ expected) :
    nodeInfoIn expected result = .error (.unexpectedMoniker expected reported) := by
  rw [nodeInfoIn, textField_eq_ok_iff.2 told]
  exact if_neg ne

/-- With the expected moniker, the other fields decide. -/
lemma nodeInfoIn_of_moniker
    (told : result.follow? ["node_info", "moniker"] = some (.str expected)) :
    nodeInfoIn expected result = do
      let key ← result.fieldAs bytesIn? ["validator_info", "pub_key", "value"]
      let address ← result.textField ["validator_info", "address"]
      let votingPower ← result.uint64Field ["validator_info", "voting_power"]
      return ⟨expected, address, Hex.ofBytes key, votingPower⟩ := by
  rw [nodeInfoIn, textField_eq_ok_iff.2 told]
  exact if_pos rfl

lemma nodeInfoIn_eq_ok_iff :
    nodeInfoIn expected result = .ok info ↔ Tells expected result info := by
  constructor
  · intro read
    obtain ⟨moniker, told, read⟩ := Except.ok_of_bind read
    have told := textField_eq_ok_iff.1 told
    split at read
    · rename_i own
      obtain ⟨bytes, key, read⟩ := Except.ok_of_bind read
      obtain ⟨address, placed, read⟩ := Except.ok_of_bind read
      obtain ⟨votingPower, power, same⟩ := Except.ok_of_bind read
      cases same
      obtain ⟨_, found, held⟩ := fieldAs_eq_ok_iff.1 key
      obtain ⟨text, rfl, spells⟩ := bytesIn?_eq_some_iff.1 held
      exact ⟨own ▸ told, own, ⟨text, bytes, found, spells, rfl⟩, textField_eq_ok_iff.1 placed,
        power⟩
    · cases read
  · intro tells
    obtain ⟨moniker, address, pubKey, votingPower⟩ := info
    obtain ⟨told, rfl, ⟨text, bytes, found, spells, rfl⟩, placed, power⟩ := tells
    have key := fieldAs_eq_ok_iff.2 ⟨_, found, bytesIn?_eq_some_iff.2 ⟨text, rfl, spells⟩⟩
    rw [nodeInfoIn_of_moniker told, key, textField_eq_ok_iff.2 placed, power]
    rfl

/-- Unless another moniker is told, the error is that of the first field that fails. -/
lemma nodeInfoIn_eq_error_iff {error : QueryError}
    (own : ∀ reported, result.follow? ["node_info", "moniker"] = some (.str reported) →
      reported = expected) :
    nodeInfoIn expected result = .error error ↔
      (identityFaults result).findSome? id = some error := by
  refine fieldAs_bind_eq_error_iff fun reported told => ?_
  rw [if_pos (own reported (textField_eq_ok_iff.1 told))]
  exact fieldAs_bind_eq_error_iff fun _ _ => fieldAs_bind_eq_error_iff fun _ _ =>
    fieldAs_bind_eq_error_iff fun _ _ => ⟨nofun, nofun⟩

/-- The identity is read exactly if it is told under the expected moniker. The key is written in
lower-case digits, which read back as the bytes that its standard text in base 64 stands for.
Another moniker is told apart whatever else is wrong, and otherwise the error is that of the first
field that fails. -/
theorem identity_read (expected : String) (result : Json) :
    (∀ info, nodeInfoIn expected result = .ok info ↔ Tells expected result info) ∧
    (∀ info, nodeInfoIn expected result = .ok info →
      ∀ c ∈ info.pubKey.toList, c ∈ "0123456789abcdef".toList) ∧
    (∀ info bytes, nodeInfoIn expected result = .ok info →
      result.follow? ["validator_info", "pub_key", "value"] =
        some (.str (String.ofList (Base64.encode bytes))) →
      Hex.toBytes? info.pubKey = some bytes) ∧
    (∀ reported, result.follow? ["node_info", "moniker"] = some (.str reported) →
      reported ≠ expected →
      nodeInfoIn expected result = .error (.unexpectedMoniker expected reported)) ∧
    ((∀ reported, result.follow? ["node_info", "moniker"] = some (.str reported) →
      reported = expected) →
      ∀ error, nodeInfoIn expected result = .error error ↔
        (identityFaults result).findSome? id = some error) := by
  refine ⟨fun _ => nodeInfoIn_eq_ok_iff, fun info read => ?_, fun info bytes read standard => ?_,
    fun _ => nodeInfoIn_of_moniker_ne, fun own _ => nodeInfoIn_eq_error_iff own⟩
  · obtain ⟨_, bytes, -, -, digits⟩ := (nodeInfoIn_eq_ok_iff.1 read).key
    rw [digits, Hex.ofBytes, String.toList_ofList]
    exact Hex.mem_of_mem_encode bytes
  · obtain ⟨text, bytes', found, spells, digits⟩ := (nodeInfoIn_eq_ok_iff.1 read).key
    cases found.symm.trans standard
    rw [String.toList_ofList] at spells
    cases (Base64.spells_encode bytes).unique spells
    rw [digits, Hex.toBytes?_ofBytes]

/-- The result of a `status` request with a moniker and a public key. -/
def sampleStatus (moniker key : Json) : Json :=
  .obj [("node_info", .obj [("moniker", moniker)]),
    ("validator_info", .obj [("address", .str "1A2B"), ("pub_key", .obj [("value", key)]),
      ("voting_power", .str "10")])]

/-- A node under its name and under another one, and a node without a name or a key. -/
theorem identity_read_sample :
    nodeInfoIn "node0" (sampleStatus (.str "node0") (.str "+/8=")) =
      .ok ⟨"node0", "1A2B", "fbff", 10⟩ ∧
    (∀ c ∈ "fbff".toList, c ∈ "0123456789abcdef".toList) ∧
    Hex.toBytes? "fbff" = some [0xfb, 0xff] ∧
    nodeInfoIn "node0" (sampleStatus (.str "node1") .null) =
      .error (.unexpectedMoniker "node0" "node1") ∧
    nodeInfoIn "node0" (sampleStatus .null .null) =
      .error (.invalidField "node_info.moniker" .null) := by
  obtain ⟨readable, digits, standard, -, -⟩ :=
    identity_read "node0" (sampleStatus (.str "node0") (.str "+/8="))
  have spells : Base64.Spells "+/8=".toList [0xfb, 0xff] :=
    Base64.decode?_eq_some_iff.1 (by decide)
  have read := (readable ⟨"node0", "1A2B", "fbff", 10⟩).2
    ⟨rfl, rfl, ⟨"+/8=", _, rfl, spells, rfl⟩, rfl, rfl⟩
  obtain ⟨-, -, -, other, -⟩ := identity_read "node0" (sampleStatus (.str "node1") .null)
  obtain ⟨-, -, -, -, first⟩ := identity_read "node0" (sampleStatus .null .null)
  exact ⟨read, digits _ read, standard _ [0xfb, 0xff] read rfl, other "node1" rfl (by decide),
    (first nofun _).2 rfl⟩

end Sequencer

end UpgradeDrill
