import HdfsOperator.Core.Xml
import HdfsOperator.Models.Cluster

/-!
# Configuration documents

A configuration file is a `configuration` element with one `property` element for each
name and value. This module has the writer and the reader, and the values that the names
of a document have.
-/

namespace HdfsOperator

open Xml

/-- One property of a configuration document. -/
structure XmlNameValuePair where
  name : String := ""
  value : String := ""
  deriving DecidableEq, Repr

/-- The characters of DNS names are written as they are. -/
theorem plainChar_of_dnsChar {ch : Char} (h : dnsChar ch = true) : plainChar ch = true := by
  have hlow (hl : ch.isLower = true) : 97 ≤ ch.toNat ∧ ch.toNat ≤ 122 := by
    have hrange : (decide ('a'.val ≤ ch.val) && decide (ch.val ≤ 'z'.val)) = true := hl
    simpa [UInt32.le_iff_toNat_le] using hrange
  have hdigit (hd : ch.isDigit = true) : 48 ≤ ch.toNat ∧ ch.toNat ≤ 57 := by
    simpa [Char.isDigit, UInt32.le_iff_toNat_le] using hd
  have hlt (hch : ch = '<') : ch.toNat = 60 := by rw [hch]; rfl
  have hgt (hch : ch = '>') : ch.toNat = 62 := by rw [hch]; rfl
  simp only [dnsChar, Bool.or_eq_true, beq_iff_eq] at h
  rcases h with ((h | h) | rfl) | rfl
  · have hr := hlow h
    exact plainChar_of_ascii (by omega) (by omega) (fun he => by have := hlt he; omega)
      (fun he => by have := hgt he; omega)
  · have hr := hdigit h
    exact plainChar_of_ascii (by omega) (by omega) (fun he => by have := hlt he; omega)
      (fun he => by have := hgt he; omega)
  · decide
  · decide

/-- Names need no escape. -/
theorem DnsText.plainText {s : String} (h : DnsText s) : PlainText s :=
  fun ch hch => plainChar_of_dnsChar (h ch hch)

/-- The first line of every written document. -/
def xmlHeader : String := "<?xml version=\"1.0\" encoding=\"UTF-8\"?>\n"

/-- The text of a property element before the name. -/
def propertyOpen : String := "\n  <property>\n    <name>"

/-- The text of a property element between the name and the value. -/
def propertyMiddle : String := "</name>\n    <value>"

/-- The text of a property element after the value. -/
def propertyClose : String := "</value>\n  </property>"

/-- The text after the last property element. -/
def documentClose : String := "\n</configuration>"

/-- One property element, indented as the encoder indents it. -/
def encodeProperty (p : XmlNameValuePair) : String :=
  propertyOpen ++ escapeText p.name ++ propertyMiddle ++ escapeText p.value ++ propertyClose

/-- The property elements of a document. -/
def encodeProperties : List XmlNameValuePair → String
  | [] => ""
  | p :: ps => encodeProperty p ++ encodeProperties ps

/-- The text of a document. -/
def encode (ps : List XmlNameValuePair) : String :=
  xmlHeader ++ "<configuration>" ++ encodeProperties ps ++
    (if ps = [] then "</configuration>" else documentClose)

/-- Where the reader stands in a configuration document. -/
inductive ConfigState
  /-- Before the document element. -/
  | start
  | configuration (props : List XmlNameValuePair)
  | property (props : List XmlNameValuePair) (pair : XmlNameValuePair)
  | name (props : List XmlNameValuePair) (pair : XmlNameValuePair) (data : List Char)
  | value (props : List XmlNameValuePair) (pair : XmlNameValuePair) (data : List Char)
  /-- Inside an element that no field is read from, with the elements open inside it. -/
  | skipped (back : ConfigState) (depth : Nat)
  /-- After the document element. -/
  | closed (props : List XmlNameValuePair)

/-- One token of a configuration document: fields are found by the local part of a name. -/
def configToken : ConfigState → Token → Option ConfigState
  | .start, .startElement n =>
    if n.localPart = "configuration" then some (.configuration []) else none
  | .start, .endElement _ => none
  | .configuration ps, .startElement n =>
    some (if n.localPart = "property" then .property ps {} else .skipped (.configuration ps) 0)
  | .configuration ps, .endElement _ => some (.closed ps)
  | .property ps p, .startElement n =>
    some (if n.localPart = "name" then .name ps p []
      else if n.localPart = "value" then .value ps p []
      else .skipped (.property ps p) 0)
  | .property ps p, .endElement _ => some (.configuration (ps ++ [p]))
  | .name ps p d, .startElement _ => some (.skipped (.name ps p d) 0)
  | .name ps p d, .endElement _ => some (.property ps { p with name := String.ofList d })
  | .name ps p d, .charData t => some (.name ps p (d ++ t))
  | .value ps p d, .startElement _ => some (.skipped (.value ps p d) 0)
  | .value ps p d, .endElement _ => some (.property ps { p with value := String.ofList d })
  | .value ps p d, .charData t => some (.value ps p (d ++ t))
  | .skipped back depth, .startElement _ => some (.skipped back (depth + 1))
  | .skipped back 0, .endElement _ => some back
  | .skipped back (depth + 1), .endElement _ => some (.skipped back depth)
  | s, _ => some s

/-- The reader of configuration documents. -/
def configHandler : Handler (Nested ConfigState) := nested
  { token := configToken
    finished
      | .closed _ => true
      | _ => false }

/-- The properties of a document, in order; `none` for a text that cannot be read. -/
def unmarshal (text : String) : Option (List XmlNameValuePair) :=
  match feedAll configHandler (.text [] 0, ⟨[], .start⟩) text.toList with
  | some (_, ⟨_, .closed ps⟩) => some ps
  | _ => none

/-- What a reader gets for a written property. -/
def replacePair (p : XmlNameValuePair) : XmlNameValuePair :=
  ⟨replaceText p.name, replaceText p.value⟩

/-- A property that XML can hold unchanged. -/
def XmlPair (p : XmlNameValuePair) : Prop := XmlText p.name ∧ XmlText p.value

/-- A pair that XML can hold is left as it is. -/
theorem replacePair_of_xmlPair {p : XmlNameValuePair} (h : XmlPair p) : replacePair p = p := by
  rw [replacePair, replaceText_of_xmlText h.1, replaceText_of_xmlText h.2]

/-- Reading one written property adds it to the properties read so far. -/
theorem feedAll_encodeProperty (opened : List Name) (ps : List XmlNameValuePair)
    (p : XmlNameValuePair) :
    feedAll configHandler (.text [] 0, ⟨opened, .configuration ps⟩) (encodeProperty p).toList =
      some (.text [] 0, ⟨opened, .configuration (ps ++ [replacePair p])⟩) := by
  have hopen : feedAll configHandler (.text [] 0, ⟨opened, .configuration ps⟩)
      propertyOpen.toList =
        some (.text [] 0, ⟨⟨"", "name"⟩ :: ⟨"", "property"⟩ :: opened, .name ps {} []⟩) := rfl
  obtain ⟨k, hname⟩ := feedAll_escapeText (h := configHandler)
    (s := ⟨⟨"", "name"⟩ :: ⟨"", "property"⟩ :: opened, .name ps {} []⟩) rfl [] 0 p.name
  have hmiddle (n : List Char) (k : Nat) : feedAll configHandler
      (.text n k, ⟨⟨"", "name"⟩ :: ⟨"", "property"⟩ :: opened, .name ps {} []⟩)
      propertyMiddle.toList = some (.text [] 0,
        ⟨⟨"", "value"⟩ :: ⟨"", "property"⟩ :: opened, .value ps ⟨String.ofList n, ""⟩ []⟩) := rfl
  obtain ⟨k', hvalue⟩ := feedAll_escapeText (h := configHandler)
    (s := ⟨⟨"", "value"⟩ :: ⟨"", "property"⟩ :: opened,
      .value ps ⟨String.ofList ([] ++ (replaceText p.name).toList), ""⟩ []⟩) rfl [] 0 p.value
  have hclose (n : String) (v : List Char) (k : Nat) : feedAll configHandler
      (.text v k, ⟨⟨"", "value"⟩ :: ⟨"", "property"⟩ :: opened, .value ps ⟨n, ""⟩ []⟩)
      propertyClose.toList = some (.text [] 0,
        ⟨opened, .configuration (ps ++ [⟨n, String.ofList v⟩])⟩) := rfl
  simp only [encodeProperty, String.toList_append, List.append_assoc]
  rw [feedAll_append_of_eq hopen, feedAll_append_of_eq hname, feedAll_append_of_eq (hmiddle _ k),
    feedAll_append_of_eq hvalue, hclose]
  simp only [List.nil_append, String.ofList_toList, replacePair]

/-- Reading written properties adds them to the properties read so far. -/
theorem feedAll_encodeProperties (opened : List Name) (ps qs : List XmlNameValuePair) :
    feedAll configHandler (.text [] 0, ⟨opened, .configuration ps⟩) (encodeProperties qs).toList =
      some (.text [] 0, ⟨opened, .configuration (ps ++ qs.map replacePair)⟩) := by
  induction qs generalizing ps with
  | nil => simp [encodeProperties, feedAll]
  | cons q qs ih =>
    rw [encodeProperties, String.toList_append,
      feedAll_append_of_eq (feedAll_encodeProperty opened ps q), ih]
    simp

/-- A written document is read back, with the characters replaced that XML cannot hold. -/
theorem unmarshal_encode (ps : List XmlNameValuePair) :
    unmarshal (encode ps) = some (ps.map replacePair) := by
  have hopen : feedAll configHandler (.text [] 0, ⟨[], .start⟩)
      (xmlHeader ++ "<configuration>").toList =
        some (.text [] 0, ⟨[⟨"", "configuration"⟩], .configuration []⟩) := rfl
  have hclose : feedAll configHandler
      (.text [] 0, ⟨[⟨"", "configuration"⟩], .configuration (ps.map replacePair)⟩)
      (if ps = [] then "</configuration>" else documentClose).toList =
        some (.text [] 0, ⟨[], .closed (ps.map replacePair)⟩) := by
    split <;> rfl
  have hall : feedAll configHandler (.text [] 0, ⟨[], .start⟩) (encode ps).toList =
      some (.text [] 0, ⟨[], .closed (ps.map replacePair)⟩) := by
    rw [encode, String.toList_append, String.toList_append, List.append_assoc,
      feedAll_append_of_eq hopen, feedAll_append_of_eq (feedAll_encodeProperties _ [] ps),
      List.nil_append, hclose]
  rw [unmarshal, hall]

/-- One property element of a document that is written out in the code. -/
def templateProperty (p : XmlNameValuePair) : String :=
  propertyOpen ++ p.name ++ propertyMiddle ++ p.value ++ propertyClose

/-- The property elements of such a document. -/
def templateProperties : List XmlNameValuePair → String
  | [] => ""
  | p :: ps => templateProperty p ++ templateProperties ps

/-- The first lines of such a document. -/
def templateOpen : String := "<?xml version=\"1.0\"?>\n<configuration>"

/-- The text of such a document. -/
def templateDocument (ps : List XmlNameValuePair) : String :=
  templateOpen ++ templateProperties ps ++ documentClose

/-- A property that is written as it is. -/
def PlainPair (p : XmlNameValuePair) : Prop := PlainText p.name ∧ PlainText p.value

instance (p : XmlNameValuePair) : Decidable (PlainPair p) :=
  inferInstanceAs (Decidable (_ ∧ _))

theorem PlainPair.xmlPair {p : XmlNameValuePair} (h : PlainPair p) : XmlPair p :=
  ⟨h.1.xmlText, h.2.xmlText⟩

/-- The templates write plain properties as the encoder does. -/
theorem templateProperties_eq {ps : List XmlNameValuePair} (h : ∀ p ∈ ps, PlainPair p) :
    templateProperties ps = encodeProperties ps := by
  induction ps with
  | nil => rfl
  | cons p ps ih =>
    rw [List.forall_mem_cons] at h
    rw [templateProperties, encodeProperties, ih h.2, templateProperty, encodeProperty,
      escapeText_of_plain h.1.1, escapeText_of_plain h.1.2]

/-- Pairs that XML can hold are left as they are. -/
theorem map_replacePair {ps : List XmlNameValuePair} (h : ∀ p ∈ ps, XmlPair p) :
    ps.map replacePair = ps :=
  (List.map_congr_left fun p hp => replacePair_of_xmlPair (h p hp)).trans (List.map_id _)

/-- A document that is written out in the code has the properties it shows. -/
theorem unmarshal_templateDocument {ps : List XmlNameValuePair} (h : ∀ p ∈ ps, PlainPair p)
    (rest : String) : unmarshal (templateDocument ps ++ rest) = some ps := by
  have hopen : feedAll configHandler (.text [] 0, ⟨[], .start⟩) templateOpen.toList =
      some (.text [] 0, ⟨[⟨"", "configuration"⟩], .configuration []⟩) := rfl
  have hbody := feedAll_encodeProperties [⟨"", "configuration"⟩] [] ps
  rw [← templateProperties_eq h, map_replacePair fun p hp => (h p hp).xmlPair] at hbody
  have hclose : feedAll configHandler
      (.text [] 0, ⟨[⟨"", "configuration"⟩], .configuration ps⟩) documentClose.toList =
        some (.text [] 0, ⟨[], .closed ps⟩) := rfl
  have hall : feedAll configHandler (.text [] 0, ⟨[], .start⟩)
      (templateDocument ps ++ rest).toList = some (.text [] 0, ⟨[], .closed ps⟩) := by
    simp only [templateDocument, String.toList_append, List.append_assoc]
    rw [feedAll_append_of_eq hopen, feedAll_append_of_eq hbody, List.nil_append,
      feedAll_append_of_eq hclose]
    exact feedAll_finished rfl _
  rw [unmarshal, hall]

/-- The value that a name has: the last property of that name counts. -/
def effectiveValue (ps : List XmlNameValuePair) (name : String) : Option String :=
  (ps.reverse.find? fun p => p.name = name).map XmlNameValuePair.value

/-- Later properties hide earlier ones. -/
theorem effectiveValue_append (ps qs : List XmlNameValuePair) (name : String) :
    effectiveValue (ps ++ qs) name = (effectiveValue qs name).or (effectiveValue ps name) := by
  simp only [effectiveValue, List.reverse_append, List.find?_append, Option.map_or]

/-- A name that no property has is not set. -/
theorem effectiveValue_eq_none {ps : List XmlNameValuePair} {name : String}
    (h : ∀ p ∈ ps, p.name ≠ name) : effectiveValue ps name = none := by
  rw [effectiveValue, List.find?_eq_none.mpr, Option.map_none]
  intro p hp
  simpa using h p (List.mem_reverse.mp hp)

/-- The last property of a name gives its value. -/
theorem effectiveValue_of_last (ps : List XmlNameValuePair) (p : XmlNameValuePair)
    {qs : List XmlNameValuePair} (h : ∀ q ∈ qs, q.name ≠ p.name) :
    effectiveValue (ps ++ p :: qs) p.name = some p.value := by
  rw [List.append_cons, effectiveValue_append, effectiveValue_eq_none h, effectiveValue_append]
  simp [effectiveValue]

/-- The value that a name has in a document given as text. -/
def documentValue (text name : String) : Option String :=
  (unmarshal text).bind fun ps => effectiveValue ps name

/-- The value of a name is that of a property. -/
theorem mem_of_effectiveValue {ps : List XmlNameValuePair} {name value : String}
    (h : effectiveValue ps name = some value) : ∃ p ∈ ps, p.name = name ∧ p.value = value := by
  obtain ⟨p, hp, hvalue⟩ := Option.map_eq_some_iff.mp h
  exact ⟨p, List.mem_reverse.mp (List.mem_of_find?_eq_some hp), by simpa using List.find?_some hp,
    hvalue⟩

/-- The total length of the values of a list of properties. -/
def valueLength (ps : List XmlNameValuePair) : Nat :=
  (ps.map fun p => p.value.length).sum

/-- The characters of values that the reader has stored; the document element counts as one. -/
def ConfigState.stored : ConfigState → Nat
  | .start => 0
  | .configuration ps | .closed ps => valueLength ps + 1
  | .property ps p | .name ps p _ => valueLength ps + p.value.length + 1
  | .value ps _ data => valueLength ps + data.length + 1
  | .skipped back _ => back.stored

/-- A token adds at most its own size to what is stored. -/
private theorem configToken_stored (s : ConfigState) (t : Token) (s' : ConfigState)
    (h : configToken s t = some s') : s'.stored ≤ s.stored + t.size := by
  unfold configToken at h
  split at h <;> (try split_ifs at h) <;> cases h <;>
    simp [ConfigState.stored, valueLength, Token.size] <;> omega

/-- A value is shorter than the document that it is read from. -/
theorem length_lt_of_documentValue {text name value : String}
    (h : documentValue text name = some value) : value.length < text.length := by
  obtain ⟨ps, hps, hvalue⟩ := Option.bind_eq_some_iff.mp h
  obtain ⟨p, hp, -, rfl⟩ := mem_of_effectiveValue hvalue
  have hmem : p.value.length ≤ valueLength ps :=
    List.le_sum_of_mem (List.mem_map_of_mem hp)
  unfold unmarshal at hps
  split at hps
  · next m opened ps' hfeed =>
    cases hps
    have hsize := feedAll_size (μ := fun s => s.state.stored)
      (fun _ _ _ ht => configToken_stored _ _ _ (nested_token ht)) hfeed
    simp only [ConfigState.stored, Mode.size, List.length_nil, String.length_toList] at hsize
    omega
  · cases hps

/-- What the reader has stored is text that XML can hold. -/
def ConfigState.InRange : ConfigState → Prop
  | .start => True
  | .configuration ps | .closed ps => ∀ p ∈ ps, XmlPair p
  | .property ps p => (∀ q ∈ ps, XmlPair q) ∧ XmlPair p
  | .name ps p data | .value ps p data =>
    (∀ q ∈ ps, XmlPair q) ∧ XmlPair p ∧ ∀ c ∈ data, inCharacterRange c = true
  | .skipped back _ => back.InRange

/-- Tokens in range leave texts in range. -/
private theorem configToken_inRange (s : ConfigState) (t : Token) (s' : ConfigState)
    (h : configToken s t = some s') (ht : t.InRange) (hs : s.InRange) : s'.InRange := by
  have hempty : XmlPair {} := by simp [XmlPair, XmlText]
  unfold configToken at h
  split at h <;> (try split_ifs at h) <;> cases h <;>
    simp only [ConfigState.InRange, Token.InRange] at hs ht ⊢ <;>
    grind [XmlPair, XmlText, String.toList_ofList]

/-- A document that can be read has properties that XML can hold. -/
theorem xmlPair_of_unmarshal {text : String} {ps : List XmlNameValuePair}
    (h : unmarshal text = some ps) : ∀ p ∈ ps, XmlPair p := by
  unfold unmarshal at h
  split at h
  · next m opened ps' hfeed =>
    cases h
    exact feedAll_inRange (P := fun s => s.state.InRange)
      (fun _ _ _ ht => configToken_inRange _ _ _ (nested_token ht)) hfeed
      (by simp [Mode.InRange]) trivial
  · cases h

/-- The value of a name in a document that was encoded from properties. -/
theorem documentValue_encode (ps : List XmlNameValuePair) (name : String) :
    documentValue (encode ps) name = effectiveValue (ps.map replacePair) name := by
  rw [documentValue, unmarshal_encode, Option.bind_some]

end HdfsOperator
