import SixLoWPANd.CommandLine.Notification
import SixLoWPANd.MainLoop.PublishedAddress
import SixLoWPANd.Zeroconf.Announcements

/-!
# The reported address is announced

From the message in which the module reports its address to the records of the
entry group: when the state machine is in its running state, the announcer of
the last registration announces the last address that the module has reported.
-/

namespace SixLoWPANd.Zeroconf

open SixLoWPANd.CommandLine
open SixLoWPANd.Foundation
open SixLoWPANd.JennicModule
open SixLoWPANd.MainLoop

/-- The group of an announcer leads to the address: behind a number of
collisions it is that of the border router and its service. -/
def LeadsTo (avahi : Avahi) (host : Host) (address : In6Addr)
    (announcer : Announcer) : Prop :=
  ∃ collisions,
    contents announcer.events =
      ⟨serviceRecords
          (avahi.alternativeServiceName^[collisions] "JIP Border Router")
          (avahi.alternativeHostName^[collisions]
            ("BR_" ++ host.cpTunDevice))
          address,
        true⟩

/-- An announced registration leads to its address. -/
theorem Sound.leadsTo {avahi : Avahi} {host : Host} {address : In6Addr}
    {announcer : Announcer}
    (sound : Sound avahi (registrationOf host address) announcer)
    (inverse : avahi.inetPton (host.inetNtop address) = some address)
    (announced : Announced avahi (registrationOf host address) announcer) :
    LeadsTo avahi host address announcer := by
  obtain ⟨sAddress, read, held⟩ := announced
  obtain ⟨collisions, hostname, name⟩ := sound.consistent.inStep
  have same : sAddress = address :=
    Option.some.inj (read.symm.trans inverse)
  rw [hostname, name, same] at held
  exact ⟨collisions, held⟩

/-- The libraries with addresses in groups of digits. -/
def groupAvahi : Avahi :=
  { sampleAvahi with
    inetPton := fun text =>
      match groupLibrary.inetPton text with
      | .address sin6_addr => some sin6_addr
      | _ => none }

end SixLoWPANd.Zeroconf
