import MeshSync.Mesh.Decode
import MeshSync.Proofs.Json.Records

/-! # Objects of the proxy as texts

    Every object of the proxy survives the way over the wire: its text is read
    as the object that was written, whichever of its fields are set and in
    whatever order they stand (`decode_encode`), so no two objects of a kind
    have a text in common.  A field that is left out is read as not set because
    the record that is read holds no other fields than those that were
    written. -/

namespace MeshSync.Dataplane

open Reader (inverts_text inverts_flag inverts_word16 inverts_word32 inverts_word64)

/-! ## Names -/

/-- A type in which every value is found under its name. -/
class LawfulNamed (α : Type) [Named α] : Prop where
  lookup_name : ∀ a : α, Named.choices.lookup (Named.name a) = some a

instance : LawfulNamed Mode := ⟨by rintro (_ | _) <;> rfl⟩

instance : LawfulNamed Verify := ⟨by rintro (_ | _) <;> rfl⟩

instance : LawfulNamed Toggle := ⟨by rintro (_ | _) <;> rfl⟩

instance : LawfulNamed LogFacility := ⟨by rintro ⟨⟩; rfl⟩

instance : LawfulNamed LogFormat := ⟨by rintro ⟨⟩; rfl⟩

instance : LawfulNamed FilterType := ⟨by rintro ⟨⟩; rfl⟩

instance : LawfulNamed RuleType := ⟨by rintro ⟨⟩; rfl⟩

instance : LawfulNamed RuleAction := ⟨by rintro (_ | _) <;> rfl⟩

instance : LawfulNamed RuleCond := ⟨by rintro (_ | _) <;> rfl⟩

/-- Names are read back. -/
theorem inverts_name {α : Type} [Named α] [LawfulNamed α] : (ofName (α := α)).Inverts named where
  back a := by
    simp only [ofName, Reader.choice, named, Json.source, LawfulNamed.lookup_name]
  readable a := .string (Named.name a)
  notNull _ h := nomatch h

/-! ## Fields -/

section Fields

variable {α β : Type} {read : Reader α} {write : α → Json}

/-- What is always written is readable. -/
theorem readable_some (h : read.Inverts write) (a : α) :
    ∀ j ∈ some (write a), j.source.Readable := by
  rintro j ⟨⟩
  exact h.readable a

/-- What is written where it is there is readable. -/
theorem readable_map (h : read.Inverts write) (v : Option α) :
    ∀ j ∈ v.map write, j.source.Readable := by
  cases v with
  | none => exact fun _ hj => nomatch hj
  | some a => exact readable_some h a

/-- Reading goes on with what was read. -/
theorem ok_bind {x : Except DecodeError α} {f : α → Except DecodeError β} {a : α}
    {y : Except DecodeError β} (hx : x = .ok a) (hf : f a = y) : x >>= f = y := by
  rw [hx]
  exact hf

end Fields

/-! ## Objects -/

/-- Objects of a type are read back, in whatever order their fields stand. -/
structure Survives {α : Type} (write : α → Json) (read : Reader α) : Prop where
  back : ∀ {a : α} {j : Json}, j.Reorders (write a) → read j.source = .ok a
  readable : ∀ {a : α} {j : Json}, j.Reorders (write a) → j.source.Readable

/-- Frontends are read back. -/
theorem survives_frontend : Survives Frontend.json Frontend.read where
  back {f j} h := by
    obtain ⟨r, hr, hfields⟩ := Record.exists_read h (by simp [List.nodup_cons]) "struct Frontend"
      ["name", "default_backend", "client_timeout", "mode", "httplog"] (by simp)
    refine ok_bind hr ?_
    refine ok_bind (hfields.required inverts_text f.name (by simp)) ?_
    refine ok_bind (hfields.optional inverts_text f.defaultBackend (by simp)) ?_
    refine ok_bind (hfields.optional inverts_word64 f.clientTimeout (by simp)) ?_
    refine ok_bind (hfields.optional inverts_name f.mode (by simp)) ?_
    refine ok_bind (hfields.defaulted inverts_flag f.httplog false (by simp)) ?_
    exact ok_bind hfields.closed rfl
  readable {f j} h := by
    refine h.readable ?_
    simp only [List.forall_mem_cons]
    exact ⟨readable_map inverts_word64 _, readable_map inverts_text _, readable_some inverts_flag _,
      readable_map inverts_name _, readable_some inverts_text _, List.forall_mem_nil _⟩

/-- Binds are read back. -/
theorem survives_bind : Survives Bind.json Bind.read where
  back {b j} h := by
    obtain ⟨r, hr, hfields⟩ := Record.exists_read h (by simp [List.nodup_cons]) "struct Bind"
      ["name", "address", "port", "ssl", "ssl_certificate", "ssl_cafile", "verify"] (by simp)
    refine ok_bind hr ?_
    refine ok_bind (hfields.required inverts_text b.name (by simp)) ?_
    refine ok_bind (hfields.required inverts_text b.address (by simp)) ?_
    refine ok_bind (hfields.optional inverts_word16 b.port (by simp)) ?_
    refine ok_bind (hfields.defaulted inverts_flag b.ssl false (by simp)) ?_
    refine ok_bind (hfields.optional inverts_text b.sslCertificate (by simp)) ?_
    refine ok_bind (hfields.optional inverts_text b.sslCafile (by simp)) ?_
    refine ok_bind (hfields.optional inverts_name b.verify (by simp)) ?_
    exact ok_bind hfields.closed rfl
  readable {b j} h := by
    refine h.readable ?_
    simp only [List.forall_mem_cons]
    exact ⟨readable_some inverts_text _, readable_some inverts_text _, readable_map inverts_word16 _,
      readable_some inverts_flag _, readable_map inverts_text _, readable_map inverts_text _,
      readable_map inverts_name _, List.forall_mem_nil _⟩

/-- Ways of balancing are read back. -/
theorem survives_balance : Survives Balance.json Balance.read where
  back {b j} h := by
    obtain ⟨r, hr, hfields⟩ := Record.exists_read h (by simp) "struct Balance" ["algorithm"]
      (by simp)
    refine ok_bind hr ?_
    refine ok_bind (hfields.required inverts_text b.algorithm (by simp)) ?_
    exact ok_bind hfields.closed rfl
  readable {b j} h := by
    refine h.readable ?_
    simp only [List.forall_mem_cons]
    exact ⟨readable_some inverts_text _, List.forall_mem_nil _⟩

/-- A balance is read where it stands in a backend. -/
theorem inverts_balance : Balance.read.Inverts Balance.json where
  back _ := survives_balance.back (.object (.refl _))
  readable _ := survives_balance.readable (.object (.refl _))
  notNull _ h := nomatch h

/-- Backends are read back. -/
theorem survives_backend : Survives Backend.json Backend.read where
  back {b j} h := by
    obtain ⟨r, hr, hfields⟩ := Record.exists_read h (by simp [List.nodup_cons]) "struct Backend"
      ["name", "mode", "server_timeout", "connect_timeout", "balance"] (by simp)
    refine ok_bind hr ?_
    refine ok_bind (hfields.required inverts_text b.name (by simp)) ?_
    refine ok_bind (hfields.optional inverts_name b.mode (by simp)) ?_
    refine ok_bind (hfields.optional inverts_word64 b.serverTimeout (by simp)) ?_
    refine ok_bind (hfields.optional inverts_word64 b.connectTimeout (by simp)) ?_
    refine ok_bind (hfields.optional inverts_balance b.balance (by simp)) ?_
    exact ok_bind hfields.closed rfl
  readable {b j} h := by
    refine h.readable ?_
    simp only [List.forall_mem_cons]
    exact ⟨readable_map inverts_balance _, readable_map inverts_word64 _,
      readable_map inverts_name _, readable_some inverts_text _, readable_map inverts_word64 _,
      List.forall_mem_nil _⟩

/-- Servers are read back. -/
theorem survives_server : Survives Server.json Server.read where
  back {s j} h := by
    obtain ⟨r, hr, hfields⟩ := Record.exists_read h (by simp [List.nodup_cons]) "struct Server"
      ["name", "address", "port", "weight", "ssl", "ssl_certificate", "ssl_cafile", "verify"]
      (by simp)
    refine ok_bind hr ?_
    refine ok_bind (hfields.required inverts_text s.name (by simp)) ?_
    refine ok_bind (hfields.required inverts_text s.address (by simp)) ?_
    refine ok_bind (hfields.optional inverts_word16 s.port (by simp)) ?_
    refine ok_bind (hfields.optional inverts_word32 s.weight (by simp)) ?_
    refine ok_bind (hfields.optional inverts_name s.ssl (by simp)) ?_
    refine ok_bind (hfields.optional inverts_text s.sslCertificate (by simp)) ?_
    refine ok_bind (hfields.optional inverts_text s.sslCafile (by simp)) ?_
    refine ok_bind (hfields.optional inverts_name s.verify (by simp)) ?_
    exact ok_bind hfields.closed rfl
  readable {s j} h := by
    refine h.readable ?_
    simp only [List.forall_mem_cons]
    exact ⟨readable_some inverts_text _, readable_some inverts_text _, readable_map inverts_word16 _,
      readable_map inverts_name _, readable_map inverts_text _, readable_map inverts_text _,
      readable_map inverts_name _, readable_map inverts_word32 _, List.forall_mem_nil _⟩

/-- Log targets are read back. -/
theorem survives_logTarget : Survives LogTarget.json LogTarget.read where
  back {t j} h := by
    obtain ⟨r, hr, hfields⟩ := Record.exists_read h (by simp [List.nodup_cons]) "struct LogTarget"
      ["id", "address", "facility", "format"] (by simp)
    refine ok_bind hr ?_
    refine ok_bind (hfields.required inverts_word32 t.id (by simp)) ?_
    refine ok_bind (hfields.required inverts_text t.address (by simp)) ?_
    refine ok_bind (hfields.required inverts_name t.facility (by simp)) ?_
    refine ok_bind (hfields.required inverts_name t.format (by simp)) ?_
    exact ok_bind hfields.closed rfl
  readable {t j} h := by
    refine h.readable ?_
    simp only [List.forall_mem_cons]
    exact ⟨readable_some inverts_text _, readable_some inverts_name _, readable_some inverts_name _,
      readable_some inverts_word32 _, List.forall_mem_nil _⟩

/-- Filters are read back. -/
theorem survives_filter : Survives Filter.json Filter.read where
  back {f j} h := by
    obtain ⟨r, hr, hfields⟩ := Record.exists_read h (by simp [List.nodup_cons]) "struct Filter"
      ["id", "type", "spoe_engine", "spoe_config"] (by simp)
    refine ok_bind hr ?_
    refine ok_bind (hfields.required inverts_word32 f.id (by simp)) ?_
    refine ok_bind (hfields.required inverts_name f.type (by simp)) ?_
    refine ok_bind (hfields.required inverts_text f.spoeEngine (by simp)) ?_
    refine ok_bind (hfields.required inverts_text f.spoeConfig (by simp)) ?_
    exact ok_bind hfields.closed rfl
  readable {f j} h := by
    refine h.readable ?_
    simp only [List.forall_mem_cons]
    exact ⟨readable_some inverts_word32 _, readable_some inverts_text _, readable_some inverts_text _,
      readable_some inverts_name _, List.forall_mem_nil _⟩

/-- Rules are read back. -/
theorem survives_tcpRequestRule : Survives TcpRequestRule.json TcpRequestRule.read where
  back {t j} h := by
    obtain ⟨r, hr, hfields⟩ := Record.exists_read h (by simp [List.nodup_cons])
      "struct TcpRequestRule" ["id", "type", "action", "cond", "cond_test"] (by simp)
    refine ok_bind hr ?_
    refine ok_bind (hfields.required inverts_word32 t.id (by simp)) ?_
    refine ok_bind (hfields.required inverts_name t.type (by simp)) ?_
    refine ok_bind (hfields.required inverts_name t.action (by simp)) ?_
    refine ok_bind (hfields.required inverts_name t.cond (by simp)) ?_
    refine ok_bind (hfields.required inverts_text t.condTest (by simp)) ?_
    exact ok_bind hfields.closed rfl
  readable {t j} h := by
    refine h.readable ?_
    simp only [List.forall_mem_cons]
    exact ⟨readable_some inverts_name _, readable_some inverts_name _, readable_some inverts_text _,
      readable_some inverts_word32 _, readable_some inverts_name _, List.forall_mem_nil _⟩

/-! ## Texts -/

/-- The kinds of objects that are written and read. -/
inductive Kind where
  | frontend
  | bind
  | balance
  | backend
  | server
  | logTarget
  | filter
  | tcpRequestRule

namespace Kind

/-- The objects of a kind. -/
def Object : Kind → Type
  | frontend => Frontend
  | bind => Bind
  | balance => Balance
  | backend => Backend
  | server => Server
  | logTarget => LogTarget
  | filter => Filter
  | tcpRequestRule => TcpRequestRule

/-- The JSON form of an object. -/
def json : (k : Kind) → k.Object → Json
  | frontend => Frontend.json
  | bind => Bind.json
  | balance => Balance.json
  | backend => Backend.json
  | server => Server.json
  | logTarget => LogTarget.json
  | filter => Filter.json
  | tcpRequestRule => TcpRequestRule.json

/-- An object from its JSON form. -/
def read : (k : Kind) → Reader k.Object
  | frontend => Frontend.read
  | bind => Bind.read
  | balance => Balance.read
  | backend => Backend.read
  | server => Server.read
  | logTarget => LogTarget.read
  | filter => Filter.read
  | tcpRequestRule => TcpRequestRule.read

/-- The text of an object. -/
def encode (k : Kind) (a : k.Object) : String := (k.json a).text

/-- The object that a text gives. -/
def decode (k : Kind) (text : String) : Except DecodeError k.Object := Mesh.decode k.read text

/-- **Objects of every kind are read back.** -/
theorem survives (k : Kind) : Survives k.json k.read := by
  cases k with
  | frontend => exact survives_frontend
  | bind => exact survives_bind
  | balance => exact survives_balance
  | backend => exact survives_backend
  | server => exact survives_server
  | logTarget => exact survives_logTarget
  | filter => exact survives_filter
  | tcpRequestRule => exact survives_tcpRequestRule

/-- A text of an object, in which its fields stand in some order. -/
def Spells (k : Kind) (a : k.Object) (text : String) : Prop :=
  ∃ j : Json, j.Reorders (k.json a) ∧ j.text = text

/-- The text that is written for an object is one of its texts. -/
theorem spells_encode (k : Kind) (a : k.Object) : k.Spells a (k.encode a) := by
  have hobject : ∃ fields, k.json a = .object fields := by cases k <;> exact ⟨_, rfl⟩
  obtain ⟨fields, hfields⟩ := hobject
  refine ⟨k.json a, ?_, rfl⟩
  rw [hfields]
  exact .object (.refl fields)

/-- An object is read from each of its texts. -/
theorem decode_of_spells (k : Kind) {a : k.Object} {text : String} (h : k.Spells a text) :
    k.decode text = .ok a := by
  obtain ⟨j, hj, rfl⟩ := h
  rw [decode, Mesh.decode, Json.parse?_text (k.survives.readable hj)]
  exact k.survives.back hj

/-- No text is that of two objects. -/
theorem eq_of_spells (k : Kind) {a b : k.Object} {text : String} (ha : k.Spells a text)
    (hb : k.Spells b text) : a = b :=
  Except.ok.inj ((k.decode_of_spells ha).symm.trans (k.decode_of_spells hb))

/-- **Objects survive the wire.**  What is written for an object is read as that
    object, so different objects have different texts; and so it is with every
    text of it, whatever order its fields stand in. -/
theorem objects_survive_the_wire (k : Kind) (a b : k.Object) :
    k.decode (k.encode a) = .ok a ∧ (a ≠ b → k.encode a ≠ k.encode b) ∧
      ∀ text, k.Spells a text → k.decode text = .ok a ∧ (a ≠ b → ¬ k.Spells b text) := by
  refine ⟨k.decode_of_spells (k.spells_encode a), fun hne h => ?_, fun text ha => ⟨?_, ?_⟩⟩
  · have hb := k.spells_encode b
    rw [← h] at hb
    exact hne (k.eq_of_spells (k.spells_encode a) hb)
  · exact k.decode_of_spells ha
  · exact fun hne hb => hne (k.eq_of_spells ha hb)

/-- A frontend whose name holds what has to be escaped and what has not. -/
def oddFrontend : Frontend where
  name := "a\"\\\n\x01é😀"
  defaultBackend := none
  clientTimeout := some 18446744073709551615
  mode := some .http
  httplog := false

/-- Its text with the fields in the order in which they are declared. -/
def oddText : String :=
  "\x7b\"name\":\"a\\\"\\\\\\n\\u0001é😀\",\"client_timeout\":18446744073709551615," ++
    "\"mode\":\"http\",\"httplog\":false\x7d"

/-- The odd text is one of the frontend's. -/
theorem spells_oddText : frontend.Spells oddFrontend oddText := by
  let name := ("name", Json.string oddFrontend.name)
  let timeout := ("client_timeout", Json.ofNat 18446744073709551615)
  let mode := ("mode", Json.string "http")
  let httplog := ("httplog", Json.bool false)
  refine ⟨.object [name, timeout, mode, httplog], .object ?_, by decide +kernel⟩
  show List.Perm _ [timeout, httplog, mode, name]
  have hlast : List.Perm [name, timeout, mode, httplog] [timeout, mode, httplog, name] :=
    (List.perm_append_singleton name _).symm
  exact hlast.trans ((List.Perm.swap httplog mode [name]).cons timeout)

/-- A field that is not set is told apart from one that is set to nothing. -/
theorem unset_is_not_empty :
    oddFrontend ≠ { oddFrontend with defaultBackend := some "" } ∧
      frontend.Spells oddFrontend oddText ∧ frontend.decode oddText = .ok oddFrontend ∧
      frontend.encode oddFrontend ≠
        frontend.encode { oddFrontend with defaultBackend := some "" } ∧
      ¬ frontend.Spells { oddFrontend with defaultBackend := some "" } oddText := by
  have hne : oddFrontend ≠ { oddFrontend with defaultBackend := some "" } := by decide
  obtain ⟨-, htext, hspells⟩ := objects_survive_the_wire frontend oddFrontend
    { oddFrontend with defaultBackend := some "" }
  obtain ⟨hdecode, hother⟩ := hspells oddText spells_oddText
  exact ⟨hne, spells_oddText, hdecode, htext hne, hother hne⟩

end Kind

end MeshSync.Dataplane
