import Mathlib.Data.List.Infix
import Mathlib.Logic.Function.Iterate
import SixLoWPANd.JennicModule.Runs
import SixLoWPANd.Zeroconf.Services

/-!
# Whole announcements

Whatever Avahi reports and in whatever order, a group that is left to Avahi
holds nothing or the whole service under the present names, and nothing else is
ever committed.  A collision renames host and service together, so the two names
stay in step.
-/

namespace SixLoWPANd.Zeroconf

open SixLoWPANd.Foundation
open SixLoWPANd.JennicModule

/-- The host and the service on it. -/
def serviceRecords (name hostname : String) (sAddress : In6Addr) :
    List Record :=
  [.service name "_jip._udp" (hostname ++ ".local") 1873,
    .address (hostname ++ ".local") sAddress]

/-- The host name behind a number of collisions. -/
def hostBehind (avahi : Avahi) (registration : Registration)
    (collisions : Nat) : String :=
  avahi.alternativeHostName^[collisions] registration.hostname

/-- The service name behind a number of collisions. -/
def serviceBehind (avahi : Avahi) (registration : Registration)
    (collisions : Nat) : String :=
  avahi.alternativeServiceName^[collisions] registration.name

/-- The group holds the whole service under the present names. -/
def Announced (avahi : Avahi) (registration : Registration)
    (announcer : Announcer) : Prop :=
  ∃ sAddress, avahi.inetPton registration.address = some sAddress ∧
    contents announcer.events =
      ⟨serviceRecords announcer.name announcer.hostname sAddress, true⟩

/-- What is documented of all events is documented of the older ones. -/
theorem documented_of_suffix {older events : List GroupEvent}
    (suffix : older <:+ events) (all : documented events = true) :
    documented older = true := by
  induction events with
  | nil =>
      rw [List.suffix_nil.mp suffix]
      exact all
  | cons event past inductionHypothesis =>
      rcases List.suffix_cons_iff.mp suffix with rfl | further
      · exact all
      · apply inductionHypothesis further
        cases event with
        | asked empty => exact (Bool.and_eq_true_iff.mp all).2
        | _ => exact all

/-- Names and events of an announcer. -/
structure Consistent (avahi : Avahi) (registration : Registration)
    (announcer : Announcer) : Prop where
  address : announcer.address = registration.address
  inStep : ∃ collisions,
    announcer.hostname = hostBehind avahi registration collisions ∧
      announcer.name = serviceBehind avahi registration collisions
  /-- What is committed is the whole service. -/
  commits : ∀ {past}, .committed :: past <:+ announcer.events →
    ∃ collisions sAddress,
      avahi.inetPton registration.address = some sAddress ∧
        contents past =
          ⟨serviceRecords (serviceBehind avahi registration collisions)
            (hostBehind avahi registration collisions) sAddress, false⟩
  /-- No group is committed without records. -/
  blank : (contents announcer.events).records = [] →
    contents announcer.events = .nothing

namespace Consistent

variable {avahi : Avahi} {registration : Registration}
variable {announcer : Announcer}

theorem daemonLog (consistent : Consistent avahi registration announcer)
    (priority : Nat) (text : String) :
    Consistent avahi registration (announcer.daemonLog priority text) :=
  ⟨consistent.address, consistent.inStep, consistent.commits,
    consistent.blank⟩

theorem requit (consistent : Consistent avahi registration announcer)
    (quit : Bool) :
    Consistent avahi registration { announcer with quit := quit } :=
  ⟨consistent.address, consistent.inStep, consistent.commits,
    consistent.blank⟩

theorem record (consistent : Consistent avahi registration announcer)
    {event : GroupEvent} (other : event ≠ .committed) :
    Consistent avahi registration (announcer.record event) := by
  refine ⟨consistent.address, consistent.inStep, ?_, ?_⟩
  · intro past committed
    rcases List.suffix_cons_iff.mp committed with same | older
    · cases same
      exact absurd rfl other
    · exact consistent.commits older
  · intro noRecord
    cases event with
    | asked empty => exact consistent.blank noRecord
    | added record => cases noRecord
    | committed => exact absurd rfl other
    | made | wasReset | withdrawn | freed => rfl

theorem commit (consistent : Consistent avahi registration announcer)
    {sAddress : In6Addr}
    (read : avahi.inetPton registration.address = some sAddress)
    (held :
      contents announcer.events =
        ⟨serviceRecords announcer.name announcer.hostname sAddress,
          false⟩) :
    Consistent avahi registration (announcer.record .committed) := by
  refine ⟨consistent.address, consistent.inStep, ?_, ?_⟩
  · intro past committed
    rcases List.suffix_cons_iff.mp committed with same | older
    · cases same
      obtain ⟨collisions, host, service⟩ := consistent.inStep
      refine ⟨collisions, sAddress, read, ?_⟩
      rw [held, host, service]
    · exact consistent.commits older
  · intro noRecord
    have records :
        (contents announcer.events).records = [] := noRecord
    rw [held] at records
    cases records

theorem grouped (consistent : Consistent avahi registration announcer)
    (group : Bool) :
    Consistent avahi registration { announcer with group := group } :=
  ⟨consistent.address, consistent.inStep, consistent.commits,
    consistent.blank⟩

/-- Both names are replaced. -/
theorem rename (consistent : Consistent avahi registration announcer) :
    Consistent avahi registration (announcer.rename avahi) := by
  refine ⟨consistent.address, ?_, consistent.commits, consistent.blank⟩
  obtain ⟨collisions, host, service⟩ := consistent.inStep
  refine ⟨collisions + 1, ?_, ?_⟩
  · rw [hostBehind, Function.iterate_succ_apply']
    exact congrArg avahi.alternativeHostName host
  · rw [serviceBehind, Function.iterate_succ_apply']
    exact congrArg avahi.alternativeServiceName service

end Consistent

/-- The announcer is consistent, and unless the loop quits its group holds
nothing or the whole service. -/
structure Sound (avahi : Avahi) (registration : Registration)
    (announcer : Announcer) : Prop where
  consistent : Consistent avahi registration announcer
  ungrouped : announcer.group = false → contents announcer.events = .nothing
  whole : announcer.quit = false →
    contents announcer.events = .nothing ∨
      Announced avahi registration announcer

section Passes

variable {avahi : Avahi} {registration : Registration}
variable {pass : Pass} {before after : Announcer}

/-- Entries are added behind what has happened before. -/
theorem addEntries_extends (avahi : Avahi) (pass : Pass)
    (before : Announcer) :
    before.events <:+ (addEntries avahi pass before).2.events := by
  unfold addEntries
  dsimp only
  split
  · exact List.suffix_rfl
  · split
    · exact List.suffix_rfl
    · split
      · split
        · exact List.suffix_cons _ _
        · exact List.suffix_cons _ _
      · split
        · exact List.suffix_append [_, _] _
        · exact List.suffix_append [_, _, _] _

theorem createPass_extends (avahi : Avahi) (pass : Pass)
    (before : Announcer) :
    before.events <:+ (createPass avahi pass before).2.events := by
  unfold createPass fillGroup
  dsimp only
  split
  · split
    · exact
        (List.suffix_cons _ _).trans
          (addEntries_extends avahi pass (before.record _))
    · exact List.suffix_cons _ _
  · split
    · exact List.suffix_rfl
    · split
      · exact
          (List.suffix_append [.asked pass.isEmpty, .made] _).trans
            (addEntries_extends avahi pass
              (({ before with group := true }.record .made).record _))
      · exact List.suffix_append [_, _] _

/-- What a pass leaves. -/
structure PassLeaves (avahi : Avahi) (registration : Registration)
    (ends : PassEnd) (before after : Announcer) : Prop where
  consistent : Consistent avahi registration after
  announced : ends = .returns → before.quit = false →
    Announced avahi registration after
  quit : after.quit = before.quit
  ungrouped : after.group = false → contents after.events = .nothing

/-- An empty group is filled. -/
theorem addEntries_leaves
    (consistent : Consistent avahi registration before)
    (grouped : before.group = true)
    (empty : contents before.events = .nothing) {ends : PassEnd}
    (added : addEntries avahi pass before = (ends, after)) :
    PassLeaves avahi registration ends before after := by
  have ungrouped : before.group = false →
      contents after.events = .nothing := by
    rw [grouped]
    exact nofun
  unfold addEntries at added
  dsimp only at added
  split at added
  · cases added
    exact ⟨(consistent.daemonLog _ _).daemonLog _ _, nofun, rfl, ungrouped⟩
  · rename_i sAddress read
    rw [consistent.address] at read
    split at added
    · cases added
      exact ⟨(consistent.daemonLog _ _).daemonLog _ _, nofun, rfl, ungrouped⟩
    · have hostAdded :=
        ((consistent.daemonLog logDebug
            ("Adding hostname '" ++ (before.hostname ++ ".local") ++
              "'")).record
          (show GroupEvent.added
              (.address (before.hostname ++ ".local") sAddress) ≠
              .committed from nofun)).daemonLog
            logDebug ("Adding service '" ++ before.name ++ "'")
      split at added
      · split at added
        · cases added
          exact ⟨hostAdded, nofun, rfl, ungrouped⟩
        · cases added
          exact ⟨hostAdded.daemonLog _ _, nofun, rfl, ungrouped⟩
      · have serviceAdded :=
          hostAdded.record
            (show GroupEvent.added
                (.service before.name "_jip._udp"
                  (before.hostname ++ ".local") 1873) ≠
                .committed from nofun)
        split at added
        · cases added
          exact ⟨serviceAdded.daemonLog _ _, nofun, rfl, ungrouped⟩
        · cases added
          have held :
              contents
                  (.added
                      (.service before.name "_jip._udp"
                        (before.hostname ++ ".local") 1873) ::
                    .added
                        (.address (before.hostname ++ ".local")
                          sAddress) ::
                      before.events) =
                ⟨serviceRecords before.name before.hostname sAddress,
                  false⟩ := by
            simp only [contents, empty]
            rfl
          refine
            ⟨serviceAdded.commit read held,
              fun _ _ => ⟨sAddress, read, ?_⟩, rfl, ungrouped⟩
          show contents (.committed :: _) = _
          rw [contents]
          exact congrArg (fun held => Contents.mk held.records true) held

/-- Behind the answer of Avahi the group holds the whole service, or nothing
and is filled. -/
theorem fillGroup_leaves (sound : Sound avahi registration before)
    (grouped : before.group = true) {ends : PassEnd}
    (filled : fillGroup avahi pass before = (ends, after))
    (asDocumented : documented after.events = true) :
    PassLeaves avahi registration ends before after := by
  have answered :=
    sound.consistent.record
      (show GroupEvent.asked pass.isEmpty ≠ .committed from nofun)
  have asked :
      .asked pass.isEmpty :: before.events <:+ after.events := by
    have same : (fillGroup avahi pass before).2 = after :=
      congrArg Prod.snd filled
    rw [← same]
    unfold fillGroup
    dsimp only
    split
    · exact
        addEntries_extends avahi pass (before.record (.asked pass.isEmpty))
    · exact List.suffix_rfl
  have truly :
      pass.isEmpty = (contents before.events).records.isEmpty := by
    have all := documented_of_suffix asked asDocumented
    exact beq_iff_eq.mp (Bool.and_eq_true_iff.mp all).1
  unfold fillGroup at filled
  dsimp only at filled
  split at filled
  · rename_i isEmpty
    rw [isEmpty] at truly
    have empty := sound.consistent.blank
      (List.isEmpty_iff.mp truly.symm)
    obtain ⟨consistent, announced, quit, ungrouped⟩ :=
      addEntries_leaves answered grouped empty filled
    exact ⟨consistent, announced, quit, ungrouped⟩
  · rename_i notEmpty
    cases filled
    refine ⟨answered, fun _ running => ?_, rfl, sound.ungrouped⟩
    rcases sound.whole running with nothing | announced
    · rw [truly, nothing] at notEmpty
      exact absurd rfl notEmpty
    · exact announced

/-- One pass keeps the announcer sound. -/
theorem createPass_leaves (sound : Sound avahi registration before)
    {ends : PassEnd}
    (passed : createPass avahi pass before = (ends, after))
    (asDocumented : documented after.events = true) :
    PassLeaves avahi registration ends before after := by
  unfold createPass at passed
  split at passed
  · rename_i grouped
    exact fillGroup_leaves sound grouped passed asDocumented
  · split at passed
    · cases passed
      exact
        ⟨sound.consistent.daemonLog _ _, nofun, rfl, sound.ungrouped⟩
    · have made :
          Sound avahi registration
            ({ before with group := true }.record .made) :=
        ⟨(sound.consistent.grouped true).record nofun, nofun,
          fun _ => Or.inl rfl⟩
      obtain ⟨consistent, announced, quit, ungrouped⟩ :=
        fillGroup_leaves made rfl passed asDocumented
      exact ⟨consistent, announced, quit, ungrouped⟩

end Passes

section Callbacks

variable {avahi : Avahi} {registration : Registration}
variable {passes : List Pass} {before after : Announcer}

theorem createServices_extends
    (created : createServices avahi passes before = some after) :
    before.events <:+ after.events := by
  induction passes generalizing before with
  | nil =>
      cases created
  | cons pass passes inductionHypothesis =>
      have extended := createPass_extends avahi pass before
      rw [createServices] at created
      split at created
      · rename_i passed
        rw [passed] at extended
        cases created
        exact extended
      · rename_i passed
        rw [passed] at extended
        cases created
        exact extended
      · rename_i passed
        rw [passed] at extended
        exact
          (extended.trans (List.suffix_cons _ _)).trans
            (inductionHypothesis created)

/-- However often the names collide on this host, behind `create_services` the
whole service is announced, unless the loop quits. -/
theorem createServices_announces
    (sound : Sound avahi registration before)
    (created : createServices avahi passes before = some after)
    (asDocumented : documented after.events = true) :
    Sound avahi registration after ∧
      (after.quit = false → Announced avahi registration after) := by
  induction passes generalizing before with
  | nil =>
      cases created
  | cons pass passes inductionHypothesis =>
      rw [createServices] at created
      split at created
      · rename_i passed
        cases created
        obtain ⟨consistent, announced, quit, ungrouped⟩ :=
          createPass_leaves sound passed asDocumented
        rw [← quit] at announced
        exact
          ⟨⟨consistent, ungrouped, fun running =>
              Or.inr (announced rfl running)⟩, announced rfl⟩
      · rename_i passed
        cases created
        obtain ⟨consistent, -, -, ungrouped⟩ :=
          createPass_leaves sound passed asDocumented
        exact ⟨⟨consistent.requit true, ungrouped, nofun⟩, nofun⟩
      · rename_i between passed
        have older :
            between.events <:+ after.events :=
          (List.suffix_cons _ _).trans (createServices_extends created)
        obtain ⟨consistent, -, -, -⟩ :=
          createPass_leaves sound passed
            (documented_of_suffix older asDocumented)
        apply inductionHypothesis _ created
        exact
          ⟨(consistent.rename.daemonLog _ _).record nofun, fun _ => rfl,
            fun _ => Or.inl rfl⟩

theorem react_extends {happening : Happening}
    (reacted : react avahi before happening = some after) :
    before.events <:+ after.events := by
  cases happening with
  | client state passes =>
      cases state with
      | running => exact createServices_extends reacted
      | registering | collision =>
          cases reacted
          split
          · exact List.suffix_cons _ _
          · exact List.suffix_rfl
      | failure errno | connecting | unhandled state =>
          cases reacted
          exact List.suffix_rfl
  | entryGroup state passes =>
      cases state with
      | collision =>
          exact
            (List.suffix_cons _ _).trans (createServices_extends reacted)
      | failure errno | registering | established | uncommited =>
          cases reacted
          exact List.suffix_rfl
  | restart =>
      cases reacted
      unfold restartClient
      dsimp only
      split
      · exact List.suffix_cons _ _
      · exact List.suffix_rfl

/-- The callbacks behind which the service is announced. -/
def announces : Happening → Prop
  | .client .running _ | .entryGroup .collision _ => True
  | _ => False

theorem clientCallback_sound {state : ClientState}
    (sound : Sound avahi registration before)
    (reacted : clientCallback avahi state passes before = some after)
    (asDocumented : documented after.events = true) :
    Sound avahi registration after ∧
      (state = .running → after.quit = false →
        Announced avahi registration after) := by
  cases state with
  | running =>
      obtain ⟨created, announced⟩ :=
        createServices_announces sound reacted asDocumented
      exact ⟨created, fun _ => announced⟩
  | failure errno =>
      cases reacted
      exact
        ⟨⟨(sound.consistent.daemonLog _ _).requit true,
          sound.ungrouped, nofun⟩, nofun⟩
  | registering | collision =>
      cases reacted
      refine ⟨?_, nofun⟩
      split
      · exact
          ⟨sound.consistent.record nofun, fun _ => rfl,
            fun _ => Or.inl rfl⟩
      · exact sound
  | connecting | unhandled state =>
      cases reacted
      exact
        ⟨⟨sound.consistent.daemonLog _ _, sound.ungrouped, sound.whole⟩,
          nofun⟩

theorem entryGroupCallback_sound {state : EntryGroupState}
    (sound : Sound avahi registration before)
    (reacted : entryGroupCallback avahi state passes before = some after)
    (asDocumented : documented after.events = true) :
    Sound avahi registration after ∧
      (state = .collision → after.quit = false →
        Announced avahi registration after) := by
  have grouped := sound.consistent.grouped true
  cases state with
  | collision =>
      have withdrawn :
          Consistent avahi registration
            ({ before with group := true }.record .withdrawn) :=
        grouped.record nofun
      obtain ⟨created, announced⟩ :=
        createServices_announces
          ⟨withdrawn.rename.daemonLog _ _, nofun, fun _ => Or.inl rfl⟩
          reacted asDocumented
      exact ⟨created, fun _ => announced⟩
  | failure errno =>
      cases reacted
      exact
        ⟨⟨(grouped.daemonLog _ _).requit true, nofun, nofun⟩, nofun⟩
  | registering | established =>
      cases reacted
      exact ⟨⟨grouped.daemonLog _ _, nofun, sound.whole⟩, nofun⟩
  | uncommited =>
      cases reacted
      exact ⟨⟨grouped, nofun, sound.whole⟩, nofun⟩

/-- A client that is started again starts without a group. -/
theorem restartClient_sound (sound : Sound avahi registration before) :
    Sound avahi registration (restartClient before) := by
  have terminated :=
    sound.consistent.daemonLog logInfo "Avahi client terminated"
  unfold restartClient
  dsimp only
  split
  · have freed :
        Consistent avahi registration
          ((before.daemonLog logInfo "Avahi client terminated").record
            .freed) :=
      terminated.record nofun
    exact
      ⟨((freed.grouped false).daemonLog _ _).requit false,
        fun _ => rfl, fun _ => Or.inl rfl⟩
  · rename_i notGrouped
    have nothing := sound.ungrouped (Bool.eq_false_iff.mpr notGrouped)
    exact
      ⟨(terminated.daemonLog _ _).requit false,
        fun _ => nothing, fun _ => Or.inl nothing⟩

/-- Whatever happens leaves a sound announcer. -/
theorem react_sound {happening : Happening}
    (sound : Sound avahi registration before)
    (reacted : react avahi before happening = some after)
    (asDocumented : documented after.events = true) :
    Sound avahi registration after ∧
      (announces happening → after.quit = false →
        Announced avahi registration after) := by
  cases happening with
  | client state passes =>
      obtain ⟨kept, announced⟩ :=
        clientCallback_sound sound reacted asDocumented
      refine ⟨kept, fun announcing => announced ?_⟩
      cases state with
      | running => rfl
      | _ => exact announcing.elim
  | entryGroup state passes =>
      obtain ⟨kept, announced⟩ :=
        entryGroupCallback_sound sound reacted asDocumented
      refine ⟨kept, fun announcing => announced ?_⟩
      cases state with
      | collision => rfl
      | _ => exact announcing.elim
  | restart =>
      cases reacted
      exact ⟨restartClient_sound sound, False.elim⟩

end Callbacks

section Announcers

variable {avahi : Avahi} {registration : Registration}
variable {announcer : Announcer}

theorem start_sound : Sound avahi registration (.start registration) where
  consistent :=
    ⟨rfl, ⟨0, rfl, rfl⟩,
      fun committed =>
        absurd (List.suffix_nil.mp committed) (List.cons_ne_nil _ _),
      fun _ => rfl⟩
  ungrouped _ := rfl
  whole _ := Or.inl rfl

theorem announce_sound {happenings : List Happening}
    (reached : announce avahi registration happenings = some announcer)
    (asDocumented : documented announcer.events = true) :
    Sound avahi registration announcer := by
  revert asDocumented
  refine
    @guardedRun_invariant Announcer Happening (react avahi)
      (fun announcer => documented announcer.events = true →
        Sound avahi registration announcer)
      (fun _ => True) ?_ _ _ (fun _ => start_sound) _ (by simp) reached
  intro before happening after sound _ reacted asDocumented
  have older :=
    documented_of_suffix (react_extends reacted) asDocumented
  exact (react_sound (sound older) reacted asDocumented).1

/-- When the server runs and when another host has taken a name, the whole
service is announced under the present names, unless Avahi fails. -/
theorem last_announced {earlier : List Happening} {happening : Happening}
    (reached :
      announce avahi registration (earlier ++ [happening]) =
        some announcer)
    (asDocumented : documented announcer.events = true)
    (announcing : announces happening) (running : announcer.quit = false) :
    Announced avahi registration announcer := by
  obtain ⟨before, first, last⟩ := guardedRun_append_iff.mp reached
  obtain ⟨after, reacted, rest⟩ := guardedRun_cons_iff.mp last
  cases guardedRun_nil_iff.mp rest
  have older :=
    documented_of_suffix (react_extends reacted) asDocumented
  exact
    (react_sound (announce_sound first older) reacted asDocumented).2
      announcing running

end Announcers

/-! ## A name that is taken -/

/-- The libraries on a host where the names are free behind one collision. -/
def sampleAvahi : Avahi where
  inetPton text :=
    if text = fullText ⟨List.replicate 16 0x20, rfl⟩ then
      some ⟨List.replicate 16 0x20, rfl⟩
    else
      none
  alternativeHostName hostname := hostname ++ "-2"
  alternativeServiceName name := name ++ " #2"
  strerror _ := "Local name collision"
  errCollision := -8

def sampleRegistration : Registration where
  name := "JIP Border Router"
  hostname := "BR_tun0"
  address := fullText ⟨List.replicate 16 0x20, rfl⟩

/-- The server runs, and the names are taken. -/
def takenNames : Happening :=
  .client .running [⟨.ok (), true, 0, -8, 0⟩, ⟨.ok (), true, 0, 0, 0⟩]

example :
    (announce sampleAvahi sampleRegistration
        [.client .connecting [], takenNames]).map
      (fun announcer => contents announcer.events) =
      some
        ⟨serviceRecords "JIP Border Router #2" "BR_tun0-2"
          ⟨List.replicate 16 0x20, rfl⟩, true⟩ := by
  decide +kernel

end SixLoWPANd.Zeroconf
