/- source: session.rs
   digest: The MSK exchange over an RA-TLS channel, from either role, with its TDCALL log. -/

import MigTd.Lib.EventLog
import MigTd.Migration.MskExchange

set_option autoImplicit false

namespace MigTd.Migration.TlsExchange

open Lib.StateProgram Lib.ByteCodec Information ServtdRecord MskExchange Tdx.Module

/-- What the platform, the transport and the peer do in one exchange. Each outcome is the one
after its conversion into a `MigrationResult`, timeouts included. -/
structure TlsChannel where
  verifyInitMigtdDataPolicyBinding : Bytes TD_INFO_SIZE → Bool
  setupTransport : Except MigrationResult Unit
  preSessionDataExchange : Except MigrationResult Octets
  client : Option Octets → Except MigrationResult Unit
  server : Option Octets → Except MigrationResult Unit
  write : Except MigrationResult Unit
  read : Except MigrationResult Octets
  shutdownTransport : Except MigrationResult Unit

/-- The calls issued so far and the application data handed to the channel so far. -/
structure TlsRun where
  log : TdLog
  sent : Octets

def TlsRun.start : TlsRun := ⟨[], []⟩

abbrev TlsProgram := Program TlsRun MigrationResult

def tdCalls {α : Type} (m : TdProgram α) : TlsProgram α :=
  embed TlsRun.log (fun t log => { t with log }) id m

section

variable (b : Build) (tdx : TdxModule) (net : TlsChannel) (info : MigtdMigrationInformation)

/-- The body shared by both roles once the secure channel is set up. -/
def exchangeOver (exchangeInformation : ExchangeInformation) : TlsProgram ExchangeInformation := do
  update fun t => { t with sent := t.sent ++ exchangeInformation.asBytes }
  lift net.write
  let received ← lift net.read
  -- The read fills at most the whole record, and a short read is refused.
  let filled := received.take EXCHANGE_INFORMATION_SIZE
  ensure (EXCHANGE_INFORMATION_SIZE ≤ filled.length) .networkError
  let remote ← lift (orElse ((ExchangeInformation.layout filled).map Prod.fst) .networkError)
  lift remote.validate
  lift net.shutdownTransport
  return remote

def migrationSrcExchangeMsk (exchangeInformation : ExchangeInformation)
    (peerData : Option Octets) : TlsProgram ExchangeInformation := do
  lift (net.client peerData)
  exchangeOver net exchangeInformation

def migrationDstExchangeMsk (exchangeInformation : ExchangeInformation)
    (peerData : Option Octets) : TlsProgram ExchangeInformation := do
  lift (net.server peerData)
  exchangeOver net exchangeInformation

/-- The GHCI 1.5 policy binding of the init data, when the host supplied any. -/
def initDataBinding : Except MigrationResult Unit :=
  match info.initTdInfoIfPresent with
  | none => .ok ()
  | some initTdInfo =>
    if b.policyV2 && !net.verifyInitMigtdDataPolicyBinding initTdInfo then
      .error .policyUnsatisfiedError
    else .ok ()

/-- Only the second policy version exchanges data before the session. -/
def preSession : Except MigrationResult (Option Octets) :=
  if b.policyV2 then net.preSessionDataExchange.map some else .ok none

def exchangeMsk : TlsProgram Unit := do
  lift (initDataBinding b net info)
  lift net.setupTransport
  let peerData ← lift (preSession b net)
  let exchangeInformation ← tdCalls (exchangeInfo tdx info info.isSrc)
  let remoteInformation ←
    if info.isSrc then migrationSrcExchangeMsk net exchangeInformation peerData
    else migrationDstExchangeMsk net exchangeInformation peerData
  let migVer ← lift (calMigVersion info.isSrc exchangeInformation remoteInformation)
  tdCalls (do
    verifyServtdAttr tdx info.bindingHandle info.targetTdUuid
    setMigVersion tdx info migVer
    writeMsk tdx info remoteInformation.key)

end

end MigTd.Migration.TlsExchange
