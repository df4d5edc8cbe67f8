import CourierDispatch.Settings.CommandLine

/-!
# Settings of the bus

Where the brokers and the schema registry are, and how the clients of the
bus behave. From these settings follow those of the two client libraries,
which are texts by name.
-/

namespace CourierDispatch

/-- **How partitions are shared out** among the consumers of a group. -/
inductive Assignor where
  /-- In ranges. -/
  | range
  /-- In turn. -/
  | roundRobin
  /-- As they are, as far as possible. -/
  | sticky
  deriving DecidableEq, Repr

namespace Assignor

/-- The strategy by the name that clients know. -/
def strategy : Assignor → String
  | range => "range"
  | roundRobin => "roundrobin"
  | sticky => "cooperative-sticky"

/-- The assignor of a word. -/
def read : String → Except Rejection Assignor
  | "range" => .ok range
  | "roundrobin" => .ok roundRobin
  | "sticky" => .ok sticky
  | _ => .error .invalidValue

end Assignor

/-- **Settings of the bus.** -/
structure BusSettings where
  /-- The brokers. -/
  brokers : String
  /-- The schema registry. -/
  registryUrl : String
  /-- Who must have a message before it counts as sent: `1` for the leader of
  its partition, `all` for every replica. -/
  acks : String
  /-- How partitions are shared out. -/
  assignor : Assignor
  /-- A new group starts with the oldest message. -/
  oldest : Bool
  /-- Consumers log what they do. -/
  verbose : Bool
  /-- The pause before a group is joined again after a failure, in
  milliseconds. -/
  rejoinBackoff : Nat

/-- How much a client logs. -/
inductive LogLevel where
  /-- What is worth knowing. -/
  | info
  /-- Everything. -/
  | debug
  deriving DecidableEq, Repr

/-- **Settings of a client library.** -/
structure ClientSettings where
  /-- The texts by name. -/
  entries : List (String × String)
  /-- How much the client logs. -/
  logLevel : LogLevel

namespace BusSettings

/-- The brokers. -/
def brokersSetting : Setting String :=
  ⟨"kafka-brokers", "KAFKA_BROKERS", "localhost:9092", Setting.readText⟩

/-- The schema registry. -/
def registrySetting : Setting String :=
  ⟨"schema-registry-url", "KAFKA_SCHEMA_REGISTRY_URL", "http://localhost:8081",
    Setting.readText⟩

/-- Who must have a message. -/
def acksSetting : Setting String :=
  ⟨"producer-acks", "KAFKA_PRODUCER_ACKS", "1", Setting.readText⟩

/-- How partitions are shared out. -/
def assignorSetting : Setting Assignor :=
  ⟨"assignor", "KAFKA_CONSUMER_ASSIGNOR", .range, Assignor.read⟩

/-- Where a new group starts. -/
def oldestSetting : Setting Bool :=
  ⟨"oldest", "KAFKA_CONSUMER_OLDEST", true, Setting.readFlag⟩

/-- Whether consumers log what they do. -/
def verboseSetting : Setting Bool :=
  ⟨"verbose", "KAFKA_CONSUMER_VERBOSE", false, Setting.readFlag⟩

/-- The pause before a group is joined again. -/
def backoffSetting : Setting Nat :=
  ⟨"rejoin-backoff-ms", "KAFKA_CONSUMER_REJOIN_BACKOFF_MS", 1000,
    Setting.readNumber (2 ^ 64)⟩

/-- The options. -/
def specs : List CommandLine.Spec :=
  [.ofSetting brokersSetting, .ofSetting registrySetting, .ofSetting acksSetting,
   .ofSetting assignorSetting, .ofSetting oldestSetting, .ofSetting verboseSetting,
   .ofSetting backoffSetting]

/-- **Reads the settings** from a command line and the environment. -/
def read (args : List String) (environment : List (String × String)) :
    Except Rejection BusSettings := do
  let given ← CommandLine.read specs args
  return {
    brokers := ← brokersSetting.value given environment
    registryUrl := ← registrySetting.value given environment
    acks := ← acksSetting.value given environment
    assignor := ← assignorSetting.value given environment
    oldest := ← oldestSetting.value given environment
    verbose := ← verboseSetting.value given environment
    rejoinBackoff := ← backoffSetting.value given environment }

/-- **Settings of producers.** Messages with one key go to one partition. -/
def producer (s : BusSettings) : ClientSettings :=
  ⟨[("bootstrap.servers", s.brokers), ("message.timeout.ms", "5000"), ("acks", s.acks),
    ("partitioner", "murmur2_random")], .info⟩

/-- **Settings of the consumers of a group.** Offsets are committed from time
to time, but only those that the consumer has marked. -/
def consumer (s : BusSettings) (groupId : String) : ClientSettings :=
  let entries :=
    [("group.id", groupId), ("bootstrap.servers", s.brokers), ("enable.partition.eof", "false"),
     ("session.timeout.ms", "6000"), ("enable.auto.commit", "true"),
     ("enable.auto.offset.store", "false"),
     ("partition.assignment.strategy", s.assignor.strategy),
     ("auto.offset.reset", if s.oldest then "earliest" else "latest")]
  if s.verbose then ⟨entries ++ [("debug", "consumer,cgrp,topic,fetch")], .debug⟩
  else ⟨entries, .info⟩

end BusSettings

end CourierDispatch
