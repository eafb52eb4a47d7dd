import PostgresqlK8s.Status

/-!
# Backups.Messages

The status messages of the backup handlers, which other handlers compare
with.
-/

namespace PostgresqlK8s.Backups

/-- `ANOTHER_CLUSTER_REPOSITORY_ERROR_MESSAGE`. -/
def anotherClusterRepositoryErrorMessage : String :=
  "the S3 repository has backups from another cluster"

/-- `FAILED_TO_ACCESS_CREATE_BUCKET_ERROR_MESSAGE`. -/
def failedToAccessCreateBucketErrorMessage : String :=
  "failed to access/create the bucket, check your S3 settings"

/-- `FAILED_TO_INITIALIZE_STANZA_ERROR_MESSAGE`. -/
def failedToInitializeStanzaErrorMessage : String :=
  "failed to initialize stanza, check your S3 settings"

/-- `CANNOT_RESTORE_PITR`. -/
def cannotRestorePitr : String := "cannot restore PITR, juju debug-log for details"

/-- `S3_BLOCK_MESSAGES`. -/
def s3BlockMessages : List String :=
  [anotherClusterRepositoryErrorMessage, failedToAccessCreateBucketErrorMessage,
    failedToInitializeStanzaErrorMessage]

/-- `is_s3_block_message`. -/
def isS3BlockMessage (message : String) : Bool :=
  s3BlockMessages.any fun blockMessage => blockMessage.toList.isPrefixOf message.toList

/-- The block message of a failed stanza initialisation, with the hint that
pgBackRest gave. -/
def stanzaBlockMessage (errorHint : String) : String :=
  if errorHint ≠ "" then failedToInitializeStanzaErrorMessage ++ ": " ++ errorHint
  else failedToInitializeStanzaErrorMessage

end PostgresqlK8s.Backups
