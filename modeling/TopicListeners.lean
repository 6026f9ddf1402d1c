import TopicListeners.Copying.Pipeline
import TopicListeners.Main
import TopicListeners.Session.State
import TopicListeners.Proofs.Container.History
import TopicListeners.Proofs.Startup.Assembly
import TopicListeners.Proofs.Payload.Conversion
import TopicListeners.Proofs.Dictionary
import TopicListeners.Proofs.Client.Layers
import TopicListeners.Proofs.Text.Trimming
import TopicListeners.Proofs.Duration.Reading
import TopicListeners.Proofs.Payload.Arranged
import TopicListeners.Proofs.Settings.Outcome
import TopicListeners.Proofs.Payload.Rendering
import TopicListeners.Proofs.Duration.Stored
import TopicListeners.Proofs.Container.Building
import TopicListeners.Proofs.Container.Connecting
import TopicListeners.Proofs.Container.Log
import TopicListeners.Proofs.Copying.Pipelines
import TopicListeners.Proofs.Payload.Blame
import TopicListeners.Proofs.Text.Lenient
import TopicListeners.Proofs.Settings.Names
import TopicListeners.Proofs.Client.AutoCommit
import TopicListeners.Proofs.Client.Producers
import TopicListeners.Proofs.Payload.Document
import TopicListeners.Proofs.Topic.Partitions
import TopicListeners.Proofs.Collaborator.Batches
import TopicListeners.Proofs.Container.Threshold
import TopicListeners.Proofs.Container.Description
