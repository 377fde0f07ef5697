/-
The two texts of a device.

An identity is stored as JSON and shown in one line. Both texts are faithful:
the stored one gives the identity back, and no two identities are shown alike.

What is stored is an object whose members are one token each, the transport
first. Reading it takes the members one after another and keeps all but the
transport in order; what they make on that transport is the device again. A
Bluetooth address goes through upper case a second time on the way, and stays
as it is.

What is shown begins with the transport, so that no host or address can look
like another transport; the port of a network device stands behind the last
colon, however many the host has; and the numbers of a USB device are read
back from their digits.
-/
import ReceiptPrinter.Device.Wire
import ReceiptPrinter.Proofs.Json.Written
import ReceiptPrinter.Proofs.Text.Upper

namespace ReceiptPrinter

open Json (Reader)
open Json.Reader

variable {rest : List Char}

-- ================================================================ members

namespace Json

/-- The text of the members that follow another one. -/
def furtherMembers (members : List (String × Json)) : List Char :=
  members.flatMap fun member => ',' :: quote member.1.toList ++ ':' :: write member.2

theorem writeMembers_cons (key : String) (v : Json) (members : List (String × Json)) :
    writeMembers ((key, v) :: members)
      = quote key.toList ++ ':' :: write v ++ furtherMembers members := by
  induction members generalizing key v with
  | nil => simp [writeMembers, furtherMembers]
  | cons next members ih =>
    obtain ⟨key', v'⟩ := next
    rw [writeMembers, ih]
    · simp [furtherMembers]
    · exact nofun

/-- What follows a member of an object ends a number. -/
theorem endsNumber_furtherMembers (members : List (String × Json)) :
    EndsNumber (furtherMembers members ++ '}' :: rest) := by
  cases members with
  | nil =>
    rintro c ⟨⟩
    decide
  | cons member members =>
    rintro c ⟨⟩
    decide

theorem length_le_furtherMembers (members : List (String × Json)) :
    members.length ≤ (furtherMembers members).length := by
  induction members with
  | nil => exact Nat.le_refl 0
  | cons member members ih =>
    unfold furtherMembers at ih ⊢
    simp only [List.flatMap_cons, List.cons_append, List.length_append, List.length_cons] at ih ⊢
    omega

namespace Reader

theorem takes_key (key : String) : Takes Reader.key (quote key.toList ++ rest) key rest := by
  have hquoted : Takes quoted (key.toList.flatMap escape ++ ['"'] ++ rest) key rest := by
    rw [List.append_assoc]
    exact takes_quoted key
  exact .bind takes_skip hquoted

theorem takes_hasKey_first : Takes (hasKey true) ('"' :: rest) true ('"' :: rest) :=
  .bind (takes_peekToken rfl) (.pure _ _)

theorem takes_hasKey_next : Takes (hasKey false) (',' :: '"' :: rest) true ('"' :: rest) :=
  .bind (takes_peekToken rfl) (.bind takes_skip (.bind (takes_peekToken rfl) (.pure _ _)))

theorem takes_hasKey_end : Takes (hasKey false) ('}' :: rest) false ('}' :: rest) :=
  .bind (takes_peekToken rfl) (.pure _ _)

theorem takes_colon : Takes colon (':' :: rest) () rest :=
  .bind (takes_peekToken rfl) takes_skip

theorem takes_closeObject : Takes closeObject ('}' :: rest) () rest :=
  .bind (takes_peekToken rfl) takes_skip

/-- A scalar is read from a text that stands for it. -/
theorem takes_scalar {α : Type} {s : Scalar α} {name : String} {a : α}
    (h : s.ofValue (.string name) = .ok a) (hrest : EndsNumber rest) :
    Takes (scalar s) (quote name.toList ++ rest) a rest := by
  have hglance : Takes glance (quote name.toList ++ rest) (.string name) rest :=
    .bind (takes_peekToken (c := '"') rfl) (takes_value (.string name) hrest)
  refine .placed (.bind hglance ?_)
  rw [h]
  exact .pure _ _

end Reader

end Json

-- ================================================================ records

namespace Json

theorem Field.ofValue_scalar {σ α : Type} {name : String} {given : σ → Bool} {s : Scalar α}
    {store : σ → α → σ} {record : σ} {v : Json} {a : α} (h : s.ofValue v = .ok a) :
    (Field.scalar name given s store).ofValue record v = .ok (store record a) := by
  show (do return store record (← s.ofValue v)) = _
  rw [h]
  rfl

namespace Shape

variable {σ : Type} {shape : Shape σ} {record record' : σ} {name : String} {v : Json}
  {members : List (String × Json)}

/-- A member that is new goes into its field. -/
theorem ofMembers_cons {field : Field σ} (hfield : shape.field? name = some field)
    (hnew : field.given record = false) (hread : field.ofValue record v = .ok record') :
    shape.ofMembers ((name, v) :: members) record = shape.ofMembers members record' := by
  rw [ofMembers, hfield]
  dsimp only
  rw [hnew, hread]
  rfl

theorem ofMembers_nil (h : shape.missing? record = none) :
    shape.ofMembers [] record = .ok record := by
  rw [ofMembers, h]

end Shape

end Json

-- ================================================================ devices

namespace DeviceIdentity

/-- A device as it can be built: a Bluetooth device has some text in upper case
for its address. -/
inductive Built : DeviceIdentity → Prop
  | ble (text : String) : Built (.ble (.ofText text))
  | usb (id : UsbIdentity) : Built (.usb id)
  | net (id : NetIdentity) : Built (.net id)

/-- The members of a device behind its transport. -/
def details : DeviceIdentity → List (String × Json)
  | ble id => id.members
  | usb id => id.members
  | net id => id.members

theorem isToken_details {id : DeviceIdentity} :
    ∀ member ∈ id.details, IsToken member.2 ∧ member.1 ≠ "transport" := by
  have hword (word : UInt16) : IsToken (.nat word.toNat) :=
    .nat (Nat.lt_trans word.toNat_lt (by decide))
  cases id with
  | ble id =>
    intro member hmember
    obtain rfl := List.mem_singleton.mp hmember
    exact ⟨.string id.mac, (by decide : "mac" ≠ "transport")⟩
  | usb id =>
    intro member hmember
    rcases List.mem_pair.mp hmember with rfl | rfl
    · exact ⟨hword _, (by decide : "vendorId" ≠ "transport")⟩
    · exact ⟨hword _, (by decide : "productId" ≠ "transport")⟩
  | net id =>
    intro member hmember
    rcases List.mem_pair.mp hmember with rfl | rfl
    · exact ⟨.string id.host, (by decide : "host" ≠ "transport")⟩
    · exact ⟨hword _, (by decide : "port" ≠ "transport")⟩

theorem takes_readMembers_further {members : List (String × Json)}
    (hmembers : ∀ member ∈ members, IsToken member.2 ∧ member.1 ≠ "transport") {fuel : Nat}
    (hfuel : members.length < fuel) (kind : TransportKind) :
    Takes (readMembers fuel false (some kind)) (Json.furtherMembers members ++ '}' :: rest)
      (kind, members) ('}' :: rest) := by
  induction members generalizing fuel with
  | nil =>
    obtain ⟨fuel, rfl⟩ : ∃ less, fuel = less + 1 := ⟨fuel - 1, by omega⟩
    exact .bind takes_hasKey_end (.pure _ _)
  | cons member members ih =>
    obtain ⟨fuel, rfl⟩ : ∃ less, fuel = less + 1 := ⟨fuel - 1, by omega⟩
    obtain ⟨hvalue, hkey⟩ := hmembers member List.mem_cons_self
    have hrest := ih (fun m hm => hmembers m (List.mem_cons_of_mem _ hm))
      (Nat.lt_of_succ_lt_succ hfuel)
    obtain ⟨key, v⟩ := member
    have htext : Json.furtherMembers ((key, v) :: members) ++ '}' :: rest
        = ',' :: (Json.quote key.toList
          ++ ':' :: (Json.write v ++ (Json.furtherMembers members ++ '}' :: rest))) := by
      simp [Json.furtherMembers]
    rw [htext]
    refine .bind takes_hasKey_next (.bind (takes_key key) ?_)
    rw [if_neg hkey]
    exact .bind takes_colon (.bind (takes_value hvalue (Json.endsNumber_furtherMembers members))
      (.bind hrest (.pure _ _)))

theorem ofValue_names (kind : TransportKind) :
    TransportKind.names.ofValue (.string kind.name) = .ok kind := by
  cases kind <;> rfl

theorem takes_readParts (id : DeviceIdentity) :
    Takes readParts (id.toJson.write ++ rest) (id.transport, .object id.details) rest := by
  have hends : EndsNumber (Json.furtherMembers id.details ++ '}' :: rest) :=
    Json.endsNumber_furtherMembers id.details
  have htext : id.toJson.write ++ rest
      = '{' :: (Json.quote "transport".toList ++ ':' :: (Json.quote id.transport.name.toList
          ++ (Json.furtherMembers id.details ++ '}' :: rest))) := by
    have hmembers : id.members = ("transport", id.transport.toJson) :: id.details := by
      cases id <;> rfl
    rw [toJson, Json.write, hmembers, Json.writeMembers_cons, TransportKind.toJson, Json.write]
    simp
  rw [htext]
  refine .placed (.bind (takes_peekToken rfl) (.bind takes_skip (.bind takes_rest
    (.bind (a := (id.transport, id.details)) (.closedBy ?_ takes_closeObject) (.pure _ _)))))
  refine .bind takes_hasKey_first (.bind (takes_key "transport") ?_)
  rw [if_pos rfl]
  refine .bind takes_colon (.bind (takes_scalar (ofValue_names id.transport) hends) ?_)
  refine takes_readMembers_further isToken_details ?_ id.transport
  have hlength := Json.length_le_furtherMembers id.details
  simp only [List.length_append, List.length_cons]
  omega

theorem ofValue_word (word : UInt16) :
    (Json.Scalar.unsigned "u16" 16).ofValue (.nat word.toNat) = .ok word.toNat := by
  have hfits : (0 : Int) ≤ word.toNat ∧ (word.toNat : Int).toNat < 1 <<< 16 :=
    ⟨Int.natCast_nonneg _, word.toNat_lt⟩
  show Json.settle (if _ then _ else _) _ _ = _
  rw [if_pos hfits]
  rfl

/-- The members of a device make the device. -/
theorem ofParts_details {id : DeviceIdentity} (h : id.Built) :
    ofParts id.transport (.object id.details) = .ok id := by
  cases h with
  | ble text =>
    -- the address in upper case is put in upper case once more
    have hsame : BleIdentity.ofText (.ofText text : BleIdentity).mac = .ofText text := by
      rw [BleIdentity.ofText_eq_iff]
      unfold BleIdentity.ofText
      rw [String.toList_ofList, Text.upper_upper]
    exact congrArg (fun id => Except.ok (ble id)) hsame
  | usb id =>
    have hread : UsbIdentity.shape.ofMembers id.members ⟨none, none⟩
        = .ok ⟨some id.vendorId.toNat, some id.productId.toNat⟩ := by
      refine (Json.Shape.ofMembers_cons (by rfl) (by rfl)
        (Json.Field.ofValue_scalar (ofValue_word id.vendorId))).trans ?_
      refine (Json.Shape.ofMembers_cons (by rfl) (by rfl)
        (Json.Field.ofValue_scalar (ofValue_word id.productId))).trans ?_
      exact Json.Shape.ofMembers_nil rfl
    show (UsbIdentity.shape.ofMembers id.members ⟨none, none⟩).bind
      (fun fields => .ok (usb (.ofFields fields))) = _
    rw [hread]
    show Except.ok (usb ⟨UInt16.ofNat id.vendorId.toNat, UInt16.ofNat id.productId.toNat⟩) = _
    rw [UInt16.ofNat_toNat, UInt16.ofNat_toNat]
  | net id =>
    have hread : NetIdentity.shape.ofMembers id.members ⟨none, none⟩
        = .ok ⟨some id.host, some id.port.toNat⟩ := by
      refine (Json.Shape.ofMembers_cons (by rfl) (by rfl)
        (Json.Field.ofValue_scalar (a := id.host) rfl)).trans ?_
      refine (Json.Shape.ofMembers_cons (by rfl) (by rfl)
        (Json.Field.ofValue_scalar (ofValue_word id.port))).trans ?_
      exact Json.Shape.ofMembers_nil rfl
    show (NetIdentity.shape.ofMembers id.members ⟨none, none⟩).bind
      (fun fields => .ok (net (.ofFields fields))) = _
    rw [hread]
    show Except.ok (net ⟨id.host, UInt16.ofNat id.port.toNat⟩) = _
    rw [UInt16.ofNat_toNat]

/-- A device comes back from the text that was written of it. -/
theorem document_write {id : DeviceIdentity} (h : id.Built) :
    document reader id.toJson.write = .ok id := by
  have hreader : Takes reader (id.toJson.write ++ []) id [] := by
    refine .bind (takes_readParts id) ?_
    dsimp only
    rw [ofParts_details h]
    exact .pure _ _
  rw [List.append_nil] at hreader
  have hend : Takes atEnd [] () [] := .bind (r := peekToken) (a := none) rfl (.pure _ _)
  have hdocument : Takes (do let id ← reader; atEnd; return id) id.toJson.write id [] :=
    hreader.bind (hend.bind (.pure _ _))
  unfold document
  rw [hdocument]

end DeviceIdentity

-- ================================================================ numbers

theorem UsbIdentity.ofText_text (id : UsbIdentity) : ofText id.text = .ok id :=
  ofText_eq_ok_iff.mpr (isPlainlyWritten_text id).isWritten

theorem NetIdentity.toList_address (id : NetIdentity) :
    id.address.toList = id.host.toList ++ ':' :: Nat.toDigits 10 id.port.toNat := by
  unfold NetIdentity.address
  simp [toString]

theorem colon_not_mem_toDigits (n : Nat) : ':' ∉ Nat.toDigits 10 n := by
  intro hmem
  have hdigit := Json.Reader.isDigit_of_mem ':' hmem
  cases hdigit

/-- Host and port can be told from the address. -/
theorem NetIdentity.address_injective {a b : NetIdentity} (h : a.address = b.address) : a = b := by
  have hlist := congrArg String.toList h
  rw [toList_address, toList_address] at hlist
  obtain ⟨hhost, hport⟩ := Text.eq_of_last_mark (colon_not_mem_toDigits _)
    (colon_not_mem_toDigits _) hlist
  have hnumber : a.port.toNat = b.port.toNat := by
    rw [← Nat.ofDigitChars_ten_toDigits (n := a.port.toNat), hport, Nat.ofDigitChars_ten_toDigits]
  cases a
  cases b
  rw [NetIdentity.mk.injEq]
  exact ⟨String.toList_inj.mp hhost, UInt16.toNat_inj.mp hnumber⟩

namespace DeviceIdentity

-- ============================================================= in one line

/-- What stands behind the transport and its colon. -/
def detail : DeviceIdentity → String
  | ble id => id.mac
  | usb id => id.text
  | net id => id.address

theorem text_eq (id : DeviceIdentity) : id.text = id.transport.name ++ ":" ++ id.detail := by
  cases id <;> rfl

/-- The transport can be told from the text, and what stands behind it. -/
theorem transport_eq_of_text_eq {a b : DeviceIdentity} (h : a.text = b.text) :
    a.transport = b.transport ∧ a.detail = b.detail := by
  have hcut (id : DeviceIdentity) : Text.splitOnce? ':' id.text.toList
      = some (id.transport.name.toList, id.detail.toList) := by
    apply Text.splitOnce?_eq_some_iff.mpr
    refine ⟨?_, ?_⟩
    · cases id.transport <;> decide
    · rw [text_eq, String.toList_append, String.toList_append, List.append_assoc]
      rfl
  have hboth : some _ = some _ := (hcut a).symm.trans (h ▸ hcut b)
  obtain ⟨hname, hdetail⟩ := Prod.mk.inj (Option.some.inj hboth)
  refine ⟨?_, String.toList_inj.mp hdetail⟩
  -- the name of a transport is read back in JSON
  have hread := ofValue_names a.transport
  rw [String.toList_inj.mp hname, ofValue_names] at hread
  exact (Except.ok.inj hread).symm

theorem text_injective {a b : DeviceIdentity} (h : a.text = b.text) : a = b := by
  obtain ⟨htransport, hdetail⟩ := transport_eq_of_text_eq h
  cases a with
  | ble a =>
    cases b with
    | ble b => exact congrArg (fun mac => ble ⟨mac⟩) hdetail
    | usb b => cases htransport
    | net b => cases htransport
  | usb a =>
    cases b with
    | ble b => cases htransport
    | usb b =>
      have hsame : UsbIdentity.ofText a.text = UsbIdentity.ofText b.text :=
        congrArg UsbIdentity.ofText hdetail
      rw [a.ofText_text, b.ofText_text] at hsame
      exact congrArg usb (Except.ok.inj hsame)
    | net b => cases htransport
  | net a =>
    cases b with
    | ble b => cases htransport
    | usb b => cases htransport
    | net b => exact congrArg net (NetIdentity.address_injective hdetail)

end DeviceIdentity

-- ============================================================= the result

/-- The two texts of a device, for all devices.

Upper case stays as it is when it is put in upper case, whatever characters
there are in it; so every device that can be built comes back from its JSON
text. Two devices are shown in the same line exactly if they are the same
device, whatever their transports, hosts and addresses are. The line of a USB
device is its transport, a colon, and a text that names this device. -/
theorem identity_texts_are_faithful :
    (∀ text, Text.upper (Text.upper text) = Text.upper text)
      ∧ (∀ id : DeviceIdentity, id.Built →
          Json.Reader.document DeviceIdentity.reader id.toJson.write = .ok id)
      ∧ (∀ a b : DeviceIdentity, a.text = b.text ↔ a = b)
      ∧ ∀ id : UsbIdentity, ∃ behind, (DeviceIdentity.usb id).text = "usb:" ++ behind
          ∧ UsbIdentity.ofText behind = .ok id := by
  refine ⟨Text.upper_upper, fun _ => DeviceIdentity.document_write,
    fun _ _ => ⟨DeviceIdentity.text_injective, congrArg DeviceIdentity.text⟩,
    fun id => ⟨id.text, rfl, id.ofText_text⟩⟩

/-- An address that is none, whose upper case has more letters than it, comes
back as it was stored. -/
theorem stored_in_capitals :
    let id := DeviceIdentity.ble (.ofText "groß")
    id.Built ∧ id.text = "ble:GROSS"
      ∧ Json.Reader.document DeviceIdentity.reader id.toJson.write = .ok id := by
  intro id
  have hbuilt : id.Built := .ble "groß"
  obtain ⟨-, hread, -⟩ := identity_texts_are_faithful
  exact ⟨hbuilt, by decide +kernel, hread id hbuilt⟩

end ReceiptPrinter
