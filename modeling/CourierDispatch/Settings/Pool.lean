import CourierDispatch.Settings.CommandLine

/-!
# Settings of the pool of workers
-/

namespace CourierDispatch

/-- **Settings of the pool that saves location reports.** -/
structure PoolSettings where
  /-- The number of workers. -/
  workers : Nat
  /-- The number of reports that can wait. -/
  queueSize : Nat
  /-- How long the pool may take to finish what waits, in seconds. -/
  drainTimeout : Nat

namespace PoolSettings

/-- The number of workers. -/
def workersSetting : Setting Nat :=
  ⟨"workers", "LOCATION_POOL_WORKERS", 10, Setting.readNumber (2 ^ 64)⟩

/-- The number of reports that can wait. -/
def queueSizeSetting : Setting Nat :=
  ⟨"queue-size", "LOCATION_POOL_QUEUE_SIZE", 10000, Setting.readNumber (2 ^ 64)⟩

/-- How long the pool may take to finish. -/
def drainTimeoutSetting : Setting Nat :=
  ⟨"drain-timeout-secs", "LOCATION_POOL_DRAIN_TIMEOUT_SECS", 30, Setting.readNumber (2 ^ 64)⟩

/-- The options. -/
def specs : List CommandLine.Spec :=
  [.ofSetting workersSetting, .ofSetting queueSizeSetting, .ofSetting drainTimeoutSetting]

/-- **Reads the settings** from a command line and the environment. -/
def read (args : List String) (environment : List (String × String)) :
    Except Rejection PoolSettings := do
  let given ← CommandLine.read specs args
  return {
    workers := ← workersSetting.value given environment
    queueSize := ← queueSizeSetting.value given environment
    drainTimeout := ← drainTimeoutSetting.value given environment }

end PoolSettings

end CourierDispatch
