import JobControl.Control.World
import JobControl.Session.Credentials
import JobControl.Text.FreshToken

/-!
# Setting up a scheduler
-/

namespace JobControl

/-- What a scheduler with these settings runs in. -/
def Settings.environment (s : Settings) : Environment where
  recognise := s.auth.recognise
  token := Text.freshToken
  retention := s.storage.backupRetention
  eventCapacity := s.records.capacity
  snapshotPath := s.storage.snapshotPath

end JobControl
