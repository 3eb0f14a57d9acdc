/- source: session.rs
   digest: Offers, negotiated versions and installed keys in the logs of two parties; either side of
     an exchange over TLS. -/

import MigTd.Migration.TlsExchange
import MigTd.Spdm.Installation

set_option autoImplicit false

namespace MigTd.Migration.TlsAgreement

open Lib.ByteCodec Lib.StateProgram Information MskExchange ServtdRecord TlsExchange
  Spdm.Installation Tdx.Module Spdm.ResponderFrames

/-- The module reported this key and these versions to a side with this role. -/
def Offers (info : MigtdMigrationInformation) (isSrc : Bool) (x : ExchangeInformation)
    (log : TdLog) : Prop := exchangeEvents info isSrc x <:+: log

/-- A write of version or key was issued, whether or not the module completed it. -/
def Writes (log : TdLog) : Prop := ∃ e ∈ log, isMigWrite e.call = true

/-- The last completed writes of version and key are this version and the whole of this key. -/
def Installs (info : MigtdMigrationInformation) (migVer : UInt16) (key : MigrationSessionKey)
    (log : TdLog) : Prop := installWrites info migVer key <:+ (succeeded log).filter isMigWrite

def Compatible (src dst : MigtdMigrationInformation) (srcLog dstLog : TdLog) : Prop :=
  ∃ x y, Offers src true x srcLog ∧ Offers dst false y dstLog ∧ (x.range ∩ y.range).Nonempty

/-- Both sides installed the greatest version of both offers, and each the other side's key. -/
def Agrees (src dst : MigtdMigrationInformation) (srcLog dstLog : TdLog) : Prop :=
  ∃ x y migVer, Offers src true x srcLog ∧ Offers dst false y dstLog ∧
    IsGreatest (x.range ∩ y.range) migVer.toNat ∧
    Installs src migVer y.key srcLog ∧ Installs dst migVer x.key dstLog

abbrev Quiet : TdLog → TdLog → Prop := Issues fun c => isMigWrite c = false

section

variable {info : MigtdMigrationInformation} {isSrc : Bool} {x : ExchangeInformation}
  {log log' : TdLog}

theorem quiet_of_reads (h : Issues ReadsOnly log log') : Quiet log log' :=
  h.mono fun _ => isMigWrite_of_readsOnly

theorem not_writes_of_quiet (h : Quiet [] log) : ¬Writes log := by
  rintro ⟨e, he, hw⟩
  rcases h.mem he with hnil | hq
  · cases hnil
  · rw [hw] at hq
    cases hq

theorem Offers.extend (h : Offers info isSrc x log) (hp : log <+: log') :
    Offers info isSrc x log' := h.trans hp.isInfix

variable {key : MigrationSessionKey} {migVer : UInt16}

theorem Installs.extend (h : Installs info migVer key log) (hq : Quiet log log') :
    Installs info migVer key log' := by
  obtain ⟨added, rfl, hadded⟩ := hq
  have hnone : (succeeded added).filter isMigWrite = [] := by
    rw [List.filter_eq_nil_iff]
    intro c hc
    obtain ⟨v, hv⟩ := mem_succeeded.mp hc
    rw [hadded _ hv]
    exact Bool.false_ne_true
  unfold Installs
  rw [succeeded_append, List.filter_append, hnone, List.append_nil]
  exact h

theorem installs_of_succeeded
    (h : succeeded log' = succeeded log ++ installWrites info migVer key) :
    Installs info migVer key log' := by
  have hall : (installWrites info migVer key).filter isMigWrite = installWrites info migVer key := by
    rw [List.filter_eq_self]
    intro c hc
    exact isMigWrite_iff.mpr ⟨_, _, writesMig_of_mem_installWrites hc⟩
  unfold Installs
  rw [h, List.filter_append, hall]
  exact List.suffix_append _ _

end

/-- One side that has heard the other one's offer: it writes only if both offers have a version in
common, and when it is done it has installed that version and the other side's key. -/
structure Settled (info : MigtdMigrationInformation) (isSrc : Bool)
    (own remote : ExchangeInformation) (log : TdLog) (done : Prop) : Prop where
  offered : Offers info isSrc own log
  guarded : Writes log → ∃ migVer, calMigVersion isSrc own remote = .ok migVer
  installed : done → ∃ migVer, calMigVersion isSrc own remote = .ok migVer ∧
    Installs info migVer remote.key log

variable {dst src : MigtdMigrationInformation} {done : Prop}

section

variable {tdx : TdxModule} {info : MigtdMigrationInformation} {isSrc : Bool}
  {own remote : ExchangeInformation} {migVer : UInt16} {log : TdLog}

theorem Settled.mono {done' : Prop} (h : Settled info isSrc own remote log done)
    (hd : done' → done) :
    Settled info isSrc own remote log done' :=
  ⟨h.offered, h.guarded, fun hdone => h.installed (hd hdone)⟩

theorem Settled.extend {log' : TdLog} (h : Settled info isSrc own remote log done)
    (hq : Quiet log log') :
    Settled info isSrc own remote log' done := by
  have hleads : log <+: log' := by
    obtain ⟨added, rfl, -⟩ := hq
    exact List.prefix_append _ _
  refine ⟨h.offered.extend hleads, ?_, ?_⟩
  · rintro ⟨e, he, hmig⟩
    rcases hq.mem he with hlog | hnot
    · exact h.guarded ⟨e, hlog, hmig⟩
    · rw [hmig] at hnot
      cases hnot
  · intro hdone
    obtain ⟨migVer, hver, hinstalled⟩ := h.installed hdone
    exact ⟨migVer, hver, hinstalled.extend hq⟩

theorem install_settled (hver : calMigVersion isSrc own remote = .ok migVer)
    (hoffer : Offers info isSrc own log) :
    Post (do
      setMigVersion tdx info migVer
      writeMsk tdx info remote.key) log
      fun x log' => Settled info isSrc own remote log' (x = .ok ()) := by
  have hgrow : Keeps (Issues (WritesMig info.bindingHandle info.targetTdUuid)) (do
      setMigVersion tdx info migVer
      writeMsk tdx info remote.key) := inferInstance
  unfold Post
  cases hrun : (do
      setMigVersion tdx info migVer
      writeMsk tdx info remote.key : TdProgram Unit) log with
  | mk x log' =>
    obtain ⟨added, rfl, -⟩ := hgrow.of_ok hrun
    refine ⟨hoffer.extend (List.prefix_append _ _), fun _ => ⟨migVer, hver⟩, ?_⟩
    intro hdone
    change x = .ok () at hdone
    rw [hdone] at hrun
    obtain ⟨_, mid, hset, hmsk⟩ := bind_ok.mp hrun
    exact ⟨migVer, hver, installs_of_succeeded (install_ok hset hmsk)⟩

theorem Settled.compatible_src {dstLog : TdLog}
    (h : Settled info true own remote log done) (hw : Writes log)
    (hdst : Offers dst false remote dstLog) : Compatible info dst log dstLog := by
  obtain ⟨migVer, hver⟩ := h.guarded hw
  exact ⟨own, remote, h.offered, hdst, _, (calMigVersion_isGreatest hver).1⟩

theorem Settled.compatible_dst {srcLog : TdLog}
    (h : Settled info false own remote log done) (hw : Writes log)
    (hsrc : Offers src true remote srcLog) : Compatible src info srcLog log := by
  obtain ⟨migVer, hver⟩ := h.guarded hw
  rw [← calMigVersion_roles] at hver
  exact ⟨remote, own, hsrc, h.offered, _, (calMigVersion_isGreatest hver).1⟩

end

theorem agrees_of_settled {x y : ExchangeInformation}
    {srcLog dstLog : TdLog} {srcDone dstDone : Prop} (hsrc : Settled src true x y srcLog srcDone)
    (hdst : Settled dst false y x dstLog dstDone) (hs : srcDone) (hd : dstDone) :
    Agrees src dst srcLog dstLog := by
  obtain ⟨migVer, hver, hinstall⟩ := hsrc.installed hs
  obtain ⟨migVer', hver', hinstall'⟩ := hdst.installed hd
  rw [← calMigVersion_roles, hver] at hver'
  cases hver'
  exact ⟨x, y, migVer, hsrc.offered, hdst.offered, calMigVersion_isGreatest hver, hinstall, hinstall'⟩

/-- The read filled the record with this information. -/
def Heard (net : TlsChannel) (remote : ExchangeInformation) : Prop :=
  ∃ received rest, net.read = .ok received ∧ EXCHANGE_INFORMATION_SIZE ≤ received.length ∧
    ExchangeInformation.layout (received.take EXCHANGE_INFORMATION_SIZE) = some (remote, rest)

/-- What one side of the exchange did: nothing was sent, an offer was sent, or an offer was sent
and another one heard. -/
inductive TlsEffect (net : TlsChannel) (info : MigtdMigrationInformation) :
    Except MigrationResult Unit → TlsRun → Prop
  | unsent {e : MigrationResult} {t : TlsRun} (sent : t.sent = []) (quiet : Quiet [] t.log) :
      TlsEffect net info (.error e) t
  | offered {e : MigrationResult} {t : TlsRun} {own : ExchangeInformation}
      (sent : t.sent = own.asBytes) (offer : Offers info info.isSrc own t.log)
      (quiet : Quiet [] t.log) : TlsEffect net info (.error e) t
  | heard {x : Except MigrationResult Unit} {t : TlsRun} {own remote : ExchangeInformation}
      (sent : t.sent = own.asBytes) (heard : Heard net remote)
      (settled : Settled info info.isSrc own remote t.log (x = .ok ())) : TlsEffect net info x t

section

variable (b : Build) (tdx : TdxModule) (net : TlsChannel) (info : MigtdMigrationInformation)

theorem exchangeOver_post (own : ExchangeInformation) (t : TlsRun) :
    Post (exchangeOver net own) t fun x u => u.log = t.log ∧ u.sent = t.sent ++ own.asBytes ∧
      ∀ remote, x = .ok remote → Heard net remote := by
  have stop {e : MigrationResult} : ∀ remote : ExchangeInformation,
      (.error e : Except MigrationResult ExchangeInformation) = .ok remote → Heard net remote := by
    intro remote h
    cases h
  refine post_bind.mpr (post_update.mpr ?_)
  refine post_bind_lift.mpr ⟨fun _ _ => ?_, fun _ _ => ⟨rfl, rfl, stop⟩⟩
  refine post_bind_lift.mpr ⟨fun received hread => ?_, fun _ _ => ⟨rfl, rfl, stop⟩⟩
  refine post_bind.mpr (post_ensure.mpr ⟨fun hsize => ?_, fun _ => ⟨rfl, rfl, stop⟩⟩)
  refine post_bind_lift.mpr ⟨fun remote hremote => ?_, fun _ _ => ⟨rfl, rfl, stop⟩⟩
  refine post_bind_lift.mpr ⟨fun _ _ => ?_, fun _ _ => ⟨rfl, rfl, stop⟩⟩
  refine post_bind_lift.mpr ⟨fun _ _ => ?_, fun _ _ => ⟨rfl, rfl, stop⟩⟩
  refine ⟨rfl, rfl, ?_⟩
  intro remote' hremote'
  cases hremote'
  obtain ⟨⟨_, rest⟩, hlayout, rfl⟩ := Option.map_eq_some_iff.mp (orElse_ok.mp hremote)
  rw [List.length_take] at hsize
  exact ⟨received, rest, hread, by omega, hlayout⟩

theorem hearing_post (gate : Except MigrationResult Unit) (own : ExchangeInformation) (t : TlsRun) :
    Post (do
      lift gate
      exchangeOver net own) t fun x u => u.log = t.log ∧ ((u.sent = t.sent ∧ ∃ e, x = .error e) ∨
          u.sent = t.sent ++ own.asBytes ∧ ∀ remote, x = .ok remote → Heard net remote) := by
  refine post_bind_lift.mpr ⟨fun _ _ => ?_, fun e _ => ⟨rfl, .inl ⟨rfl, e, rfl⟩⟩⟩
  exact (exchangeOver_post net own t).mono fun _ _ h => ⟨h.1, .inr h.2⟩

theorem settling_post {own remote : ExchangeInformation} {u : TlsRun}
    (hsent : u.sent = own.asBytes) (hoffer : Offers info info.isSrc own u.log)
    (hreads : Quiet [] u.log) (hheard : Heard net remote) :
    Post (do
      let migVer ← lift (calMigVersion info.isSrc own remote)
      tdCalls (do
        verifyServtdAttr tdx info.bindingHandle info.targetTdUuid
        setMigVersion tdx info migVer
        writeMsk tdx info remote.key)) u (TlsEffect net info) := by
  have hattr : Keeps (Issues ReadsOnly)
      (verifyServtdAttr tdx info.bindingHandle info.targetTdUuid) :=
    keeps_verifyServtdAttr.mono fun _ _ hi => hi.mono fun _ hc => readsOnly_of_readsTarget hc
  have hgrown {log : TdLog} (h : Issues ReadsOnly u.log log) : Offers info info.isSrc own log := by
    obtain ⟨added, rfl, -⟩ := h
    exact hoffer.extend (List.prefix_append _ _)
  refine post_bind_lift.mpr ⟨fun migVer hver => ?_, fun _ _ => .offered hsent hoffer hreads⟩
  refine post_embed.mpr (post_bind_keeps hattr (fun _ mid _ hread => ?_) fun _ mid _ hread => ?_)
  · refine (install_settled hver (hgrown hread)).mono ?_
    intro y log hsettled
    cases y with
    | ok _ => exact .heard hsent hheard hsettled
    | error e => exact .heard hsent hheard (hsettled.mono fun h => by cases h)
  · exact .offered hsent (hgrown hread) (trans_of _ hreads (quiet_of_reads hread))

theorem exchangeMsk_effect :
    Post (exchangeMsk b tdx net info) TlsRun.start (TlsEffect net info) := by
  have hstart : Quiet [] TlsRun.start.log := refl_of _ _
  refine post_bind_lift.mpr ⟨fun _ _ => ?_, fun _ _ => .unsent rfl hstart⟩
  refine post_bind_lift.mpr ⟨fun _ _ => ?_, fun _ _ => .unsent rfl hstart⟩
  refine post_bind_lift.mpr ⟨fun peerData _ => ?_, fun _ _ => .unsent rfl hstart⟩
  refine post_bind_embed (fun own log hown => ?_) fun _ log hown =>
    .unsent rfl (quiet_of_reads ((keeps_exchangeInfo info.isSrc).of_ok hown))
  have hreads : Quiet [] log := quiet_of_reads ((keeps_exchangeInfo info.isSrc).of_ok hown)
  have hoffer : Offers info info.isSrc own log := by
    rw [(exchangeInfo_iff.mp hown).2.1]
    exact List.infix_rfl
  have hrole (gate : Except MigrationResult Unit) := hearing_post net gate own ⟨log, []⟩
  split
  all_goals
    refine post_bind_of (hrole _) ?_ ?_
    · rintro remote ⟨_, usent⟩ ⟨rfl, ⟨-, e, he⟩ | ⟨hsent, hheard⟩⟩
      · cases he
      · exact settling_post tdx net info hsent hoffer hreads (hheard remote rfl)
    · rintro e ⟨_, usent⟩ ⟨rfl, ⟨hsent, -⟩ | ⟨hsent, -⟩⟩
      · exact .unsent hsent hreads
      · exact .offered hsent hoffer hreads

variable {net info} {x : Except MigrationResult Unit} {t : TlsRun}

theorem TlsEffect.settled (h : TlsEffect net info x t)
    (hw : Writes t.log ∨ x = .ok ()) : ∃ own remote, t.sent = own.asBytes ∧ Heard net remote ∧
      Settled info info.isSrc own remote t.log (x = .ok ()) := by
  cases h with
  | unsent sent quiet =>
    rcases hw with hw | hw
    · exact (not_writes_of_quiet quiet hw).elim
    · cases hw
  | offered sent offer quiet =>
    rcases hw with hw | hw
    · exact (not_writes_of_quiet quiet hw).elim
    · cases hw
  | heard sent heard settled => exact ⟨_, _, sent, heard, settled⟩

theorem TlsEffect.spoken (h : TlsEffect net info x t) :
    t.sent = [] ∨ ∃ own, t.sent = own.asBytes ∧ Offers info info.isSrc own t.log := by
  cases h with
  | unsent sent => exact .inl sent
  | offered sent offer => exact .inr ⟨_, sent, offer⟩
  | heard sent heard settled => exact .inr ⟨_, sent, settled.offered⟩

end

structure TlsSide where
  build : Build
  tdx : TdxModule
  net : TlsChannel
  info : MigtdMigrationInformation

namespace TlsSide

def run (p : TlsSide) : Except MigrationResult Unit × TlsRun :=
  exchangeMsk p.build p.tdx p.net p.info TlsRun.start

def log (p : TlsSide) : TdLog := p.run.2.log

/-- What this side reads is what the other side sent, as far as it has arrived. -/
def Hears (p q : TlsSide) : Prop := ∀ received, p.net.read = .ok received → received <+: q.run.2.sent

theorem effect (p : TlsSide) : TlsEffect p.net p.info p.run.1 p.run.2 :=
  exchangeMsk_effect p.build p.tdx p.net p.info

variable {p q : TlsSide} {remote : ExchangeInformation}

theorem heard_eq {own : ExchangeInformation} (hears : p.Hears q) (sent : q.run.2.sent = own.asBytes)
    (heard : Heard p.net remote) : remote = own := by
  obtain ⟨received, rest, hread, hsize, hlayout⟩ := heard
  have hleads := hears received hread
  rw [sent] at hleads
  have hwhole : received = own.asBytes := by
    apply hleads.eq_of_length_le
    rw [asBytes_length]
    exact hsize
  have hdecoded := decodes_layout own []
  rw [List.append_nil] at hdecoded
  rw [hwhole, ← asBytes_length own, List.take_length, hdecoded] at hlayout
  cases hlayout
  rfl

theorem heard_offered (hears : p.Hears q) (heard : Heard p.net remote) :
    Offers q.info q.info.isSrc remote q.log := by
  rcases q.effect.spoken with sent | ⟨own, sent, offer⟩
  · obtain ⟨received, rest, hread, hsize, -⟩ := heard
    have hleads := hears received hread
    rw [sent, List.prefix_nil] at hleads
    rw [hleads] at hsize
    cases hsize
  · rw [heard_eq hears sent heard]
    exact offer

end TlsSide

end MigTd.Migration.TlsAgreement
