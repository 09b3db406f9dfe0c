/-!
# Descriptors

A USB device describes itself by configurations. A configuration has interfaces, an interface
has alternate settings, and a setting has endpoints. Here is what a setting must offer to be
used for bulk-only mass storage: the right class, subclass and protocol, and a bulk endpoint
for either direction. Both endpoints are taken from the same setting, and where it has
several for one direction the last one counts.
-/

namespace PlayerLink

/-- An endpoint as a descriptor states it. -/
structure Endpoint where
  address : UInt8
  attributes : UInt8
  maxPacketSize : UInt16
  deriving DecidableEq, Repr

namespace Endpoint

/-- The two low bits of the attributes tell the kind of transfer. -/
def IsBulk (e : Endpoint) : Prop := e.attributes &&& 0x03 = 0x02

/-- The top bit of the address tells the direction. -/
def IsInput (e : Endpoint) : Prop := e.address &&& 0x80 ≠ 0

instance (e : Endpoint) : Decidable e.IsBulk := inferInstanceAs (Decidable (_ = _))

instance (e : Endpoint) : Decidable e.IsInput := inferInstanceAs (Decidable (_ ≠ _))

end Endpoint

/-- One way to use an interface. -/
structure AlternateSetting where
  classCode : UInt8
  subclass : UInt8
  protocol : UInt8
  number : UInt8
  endpoints : List Endpoint
  deriving DecidableEq, Repr

/-- The settings of an interface, in order. -/
abbrev Interface := List AlternateSetting

/-- The interfaces of a configuration, in order. -/
abbrev Configuration := List Interface

/-- The endpoints to be used for bulk-only mass storage. -/
structure StorageInterface where
  input : Endpoint
  output : Endpoint
  number : UInt8
  subclass : UInt8
  deriving DecidableEq, Repr

namespace AlternateSetting

/-- Mass storage, in one of the two command sets that are understood, over bulk-only
transport. -/
def IsBulkOnlyStorage (s : AlternateSetting) : Prop :=
  s.classCode = 0x08 ∧ (s.subclass = 0x05 ∨ s.subclass = 0x06) ∧ s.protocol = 0x50

instance (s : AlternateSetting) : Decidable s.IsBulkOnlyStorage :=
  inferInstanceAs (Decidable (_ ∧ _))

/-- The last bulk endpoint that receives. -/
def input? (s : AlternateSetting) : Option Endpoint :=
  (s.endpoints.filter fun e => e.IsBulk ∧ e.IsInput).getLast?

/-- The last bulk endpoint that sends. -/
def output? (s : AlternateSetting) : Option Endpoint :=
  (s.endpoints.filter fun e => e.IsBulk ∧ ¬ e.IsInput).getLast?

/-- What a setting offers for mass storage. -/
def storage? (s : AlternateSetting) : Option StorageInterface :=
  if s.IsBulkOnlyStorage then
    match s.input?, s.output? with
    | some input, some output => some ⟨input, output, s.number, s.subclass⟩
    | _, _ => none
  else none

end AlternateSetting

/-- The first setting of a configuration that can be used for mass storage. -/
def Configuration.storage? (c : Configuration) : Option StorageInterface :=
  c.flatten.findSome? AlternateSetting.storage?

end PlayerLink
