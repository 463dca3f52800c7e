import DealForm.Deal.Metadata

/-!
# Uploads

A file with the name under which it is sent, and the request that sends it as an end-to-end deal.
The endpoint is the base URL as typed, followed by a fixed path.
-/

namespace DealForm

structure FileBlob where
  fileName : String
  bytes : Bytes
  deriving DecidableEq, Repr

structure UploadInput where
  file : FileBlob
  minerId : String
  apiKey : String
  deriving DecidableEq, Repr

/-- A single upload, with the form's values as they were when it was submitted. -/
structure UploadRequest where
  baseUrl : String
  input : UploadInput
  metadata : Metadata
  deriving Repr

def dealPath : String := "/api/v1/deal/end-to-end"

def UploadRequest.endpoint (r : UploadRequest) : String :=
  r.baseUrl ++ dealPath

end DealForm
